import EventRouting.Proofs.Fallible
import EventRouting.Proofs.Statement.Grammar

set_option autoImplicit false

namespace EventRouting

open Fallible

namespace Chain

theorem joint_of_operator? {c : Chain} {ps : List Placed} {op : Operator} {n : Nat}
    (h : c.operator? ps = some (op, n)) :
    ∃ symbol, c.Joint symbol op ∧ symbol.length = n ∧ (ps.take n).map (·.token) = symbol := by
  unfold operator? at h
  split at h <;> simp only [Option.some.injEq, Prod.mk.injEq, reduceCtorEq] at h <;>
    obtain ⟨rfl, rfl⟩ := h <;> exact ⟨_, by constructor, rfl, rfl⟩

theorem operator?_of_joint {c : Chain} {ps : List Placed} {symbol xs : List Token}
    {op : Operator} (h : c.Joint symbol op) (hps : ps.map (·.token) = symbol ++ xs) :
    c.operator? ps = some (op, symbol.length) := by
  cases h <;> rcases ps with _ | ⟨⟨_, _⟩, _ | ⟨⟨_, _⟩, _⟩⟩ <;> simp_all [operator?]

theorem operator?_eq_none {c : Chain} {ps : List Placed}
    (h : (Level.chain c).Stops (ps.map (·.token))) : c.operator? ps = none := by
  rw [Option.eq_none_iff_forall_ne_some]
  rintro ⟨op, n⟩ hop
  obtain ⟨symbol, joint, -, hsymbol⟩ := joint_of_operator? hop
  refine h c symbol op ((ps.drop n).map (·.token)) (Nat.le_refl _) joint ?_
  rw [← hsymbol, ← List.map_append, List.take_append_drop]

end Chain

namespace Cursor

def upTo (s : Cursor) (n : Nat) : List Token := (s.rest.take n).map (·.token)

theorem upTo_add (s : Cursor) (m n : Nat) : s.upTo (m + n) = s.upTo m ++ (s.skip m).upTo n := by
  simp [upTo, skip, List.take_add]

@[simp] theorem skip_depth (s : Cursor) (n : Nat) : (s.skip n).depth = s.depth := rfl

@[simp] theorem deeper_depth (s : Cursor) : s.deeper.depth = s.depth + 1 := rfl

@[simp] theorem after_depth {α : Type} (s : Cursor) (p : Parsed α) :
    (s.after p).depth = p.depth := rfl

theorem upTo_deeper (s : Cursor) (n : Nat) : s.deeper.upTo n = s.upTo n := rfl

theorem upTo_taken_add {α : Type} (s : Cursor) (p : Parsed α) (n : Nat) :
    s.upTo (p.taken + n) = s.upTo p.taken ++ (s.after p).upTo n :=
  s.upTo_add p.taken n

theorem upTo_succ {s : Cursor} {t : Token} {position : Position} {tail : List Placed}
    (h : s.rest = ⟨t, position⟩ :: tail) (n : Nat) : s.upTo (n + 1) = t :: (s.skip 1).upTo n := by
  simp [upTo, skip, h]

@[simp] theorem upTo_zero (s : Cursor) : s.upTo 0 = [] := rfl

theorem token_of_rest {s : Cursor} {t : Token} {position : Position} {tail : List Placed}
    (h : s.rest = ⟨t, position⟩ :: tail) : s.token = t := by
  simp [token, h]

theorem token_eq {s : Cursor} {t : Token} (h : s.token = t) (ht : t ≠ .eof) :
    ∃ position tail, s.rest = ⟨t, position⟩ :: tail := by
  unfold token at h
  split at h
  · exact absurd h.symm ht
  · rename_i p tail heq
    exact ⟨p.position, tail, by rw [heq, ← h]⟩

theorem rest_of_leaf {s : Cursor} {leaf : Expr} (h : s.token.leaf? = some leaf) :
    ∃ position tail, s.rest = ⟨s.token, position⟩ :: tail := by
  refine token_eq rfl fun heof => ?_
  rw [heof] at h
  cases h

def tokens (s : Cursor) : List Token := s.rest.map (·.token)

@[simp] theorem tokens_skip (s : Cursor) (n : Nat) : (s.skip n).tokens = s.tokens.drop n := by
  simp [tokens, skip]

@[simp] theorem tokens_deeper (s : Cursor) : s.deeper.tokens = s.tokens := rfl

@[simp] theorem tokens_after {α : Type} (s : Cursor) (p : Parsed α) :
    (s.after p).tokens = s.tokens.drop p.taken := by
  simp [tokens, after]

theorem rest_of_tokens {s : Cursor} {t : Token} {ts : List Token} (h : s.tokens = t :: ts) :
    ∃ position tail, s.rest = ⟨t, position⟩ :: tail := by
  obtain ⟨p, tail, hrest, rfl, -⟩ := List.map_eq_cons_iff.1 h
  exact ⟨p.position, tail, hrest⟩

theorem head_of_rest {s : Cursor} {t : Token} {position : Position} {tail : List Placed}
    {ts rest : List Token} (h : s.tokens = ts ++ rest) (hrest : s.rest = ⟨t, position⟩ :: tail)
    (hts : ts ≠ []) : ts = t :: ts.tail := by
  obtain ⟨u, us, rfl⟩ := List.exists_cons_of_ne_nil hts
  simp only [tokens, hrest, List.map_cons, List.cons_append, List.cons.injEq] at h
  simp [h.1]

theorem token_of_tokens {s : Cursor} {t : Token} {ts : List Token} (h : s.tokens = t :: ts) :
    s.token = t := by
  obtain ⟨position, tail, hrest⟩ := rest_of_tokens h
  exact token_of_rest hrest

section

open Reading

variable {m : Type → Type} [Monad m] [Reading m] {s : Cursor} {position : Position}
  {tail : List Placed} (mayNegate : Bool)

theorem phrase_eq (level : Level) (s : Cursor) : s.phrase (m := m) level mayNegate =
    within (.phrase level) s (s.phraseBody level mayNegate) := by
  rw [phrase]

theorem phraseBody_chain (c : Chain) (s : Cursor) :
    s.phraseBody (m := m) (.chain c) mayNegate = (do
      let first ← s.phrase c.operand mayNegate
      let all ← (s.after first).operands c s.depth first.value
      return ⟨all.value, first.taken + all.taken, all.depth⟩) := by
  rw [phraseBody]

theorem phraseBody_not (h : s.rest = ⟨.not, position⟩ :: tail) :
    s.phraseBody (m := m) .negation mayNegate =
      if s.depth < maxDepth then do
        let operand ← (s.skip 1).deeper.phrase .negation true
        surface operand.depth
        return ⟨.not operand.value, operand.taken + 1, operand.depth - 1⟩
      else fail (s.skip 1).tooDeep := by
  rw [phraseBody]
  split
  · rfl
  · rename_i hnot
    exact absurd h (hnot position tail)

theorem phraseBody_plain (h : ∀ position tail, s.rest ≠ ⟨.not, position⟩ :: tail) :
    s.phraseBody (m := m) .negation mayNegate = (do
      plain s
      s.phrase (.chain .equality) true) := by
  rw [phraseBody]
  split
  · rename_i hrest
    exact absurd hrest (h _ _)
  · rfl

theorem phraseBody_leaf {leaf : Expr} (h : s.token.leaf? = some leaf) :
    s.phraseBody (m := m) .primary mayNegate = return ⟨leaf, 1, s.depth⟩ := by
  rw [phraseBody]
  simp only [h]

theorem phraseBody_leftBracket (h : s.rest = ⟨.leftBracket, position⟩ :: tail) :
    s.phraseBody (m := m) .primary mayNegate =
      if s.depth < maxDepth then do
        let list ← (s.skip 1).deeper.items
        surface list.depth
        return ⟨.list list.value, list.taken + 1, list.depth - 1⟩
      else fail (s.skip 1).tooDeep := by
  have hleaf : Token.leaf? .leftBracket = none := rfl
  rw [phraseBody]
  simp only [token_of_rest h, hleaf]
  split
  · rfl
  · simp_all
  · rename_i hbracket _
    exact absurd h (hbracket position tail)

theorem phraseBody_leftParen (h : s.rest = ⟨.leftParen, position⟩ :: tail) :
    s.phraseBody (m := m) .primary mayNegate =
      if s.depth < maxDepth then do
        let content ← (s.skip 1).deeper.phrase (.chain .disjunction) true
        match ((s.skip 1).deeper.after content).token with
        | .rightParen =>
          surface content.depth
          return ⟨content.value, content.taken + 2, content.depth - 1⟩
        | _ => fail (((s.skip 1).deeper.after content).unexpected [")"])
      else fail (s.skip 1).tooDeep := by
  have hleaf : Token.leaf? .leftParen = none := rfl
  rw [phraseBody]
  simp only [token_of_rest h, hleaf]
  split
  · simp_all
  · rfl
  · rename_i _ hparen
    exact absurd h (hparen position tail)

theorem phraseBody_unopened (hleaf : s.token.leaf? = none)
    (hbracket : ∀ position tail, s.rest ≠ ⟨.leftBracket, position⟩ :: tail)
    (hparen : ∀ position tail, s.rest ≠ ⟨.leftParen, position⟩ :: tail) :
    s.phraseBody (m := m) .primary mayNegate = (do
      let kinds ← expected mayNegate s
      fail (s.unexpected kinds)) := by
  rw [phraseBody]
  simp only [hleaf]

theorem items_eq (s : Cursor) : s.items (m := m) = within .items s s.itemsBody := by
  rw [items]

theorem itemsBody_close (h : s.rest = ⟨.rightBracket, position⟩ :: tail) :
    s.itemsBody (m := m) = return ⟨[], 1, s.depth⟩ := by
  rw [itemsBody]
  split
  · rfl
  · rename_i hbracket
    exact absurd h (hbracket position tail)

theorem itemsBody_open (h : ∀ position tail, s.rest ≠ ⟨.rightBracket, position⟩ :: tail) :
    s.itemsBody (m := m) = s.moreItems := by
  rw [itemsBody]
  split
  · rename_i hrest
    exact absurd hrest (h _ _)
  · rfl

theorem moreItems_eq (s : Cursor) :
    s.moreItems (m := m) = (do
      let item ← s.phrase (.chain .disjunction) true
      match (s.after item).token with
      | .rightBracket => return ⟨[item.value], item.taken + 1, item.depth⟩
      | .comma =>
        let more ← ((s.after item).skip 1).moreItems
        return ⟨item.value :: more.value, item.taken + 1 + more.taken, more.depth⟩
      | _ => fail ((s.after item).unexpected [",", "]"])) := by
  conv => lhs; rw [moreItems]
  congr 1
  funext item
  split
  · rename_i hrest
    simp [token_of_rest hrest]
  · rename_i hrest
    simp [token_of_rest hrest]
  · rename_i hclose hcomma
    split
    · rename_i htoken
      obtain ⟨position, tail, hrest⟩ := token_eq htoken (by simp)
      exact absurd hrest (hclose position tail)
    · rename_i htoken
      obtain ⟨position, tail, hrest⟩ := token_eq htoken (by simp)
      exact absurd hrest (hcomma position tail)
    · rfl

theorem operands_stop {c : Chain} {base : Nat} {left : Expr} (h : c.operator? s.rest = none) :
    s.operands (m := m) c base left = return ⟨left, 0, base⟩ := by
  rw [operands]
  split
  · rfl
  · simp_all

theorem operands_operator {c : Chain} {base n : Nat} {left : Expr} {op : Operator}
    (h : c.operator? s.rest = some (op, n)) :
    s.operands (m := m) c base left =
      if s.depth < maxDepth then do
        let right ← (s.skip n).deeper.phrase c.operand false
        let more ← ((s.skip n).deeper.after right).operands c base (.binary op left right.value)
        return ⟨more.value, n + right.taken + more.taken, more.depth⟩
      else fail (s.skip n).tooDeep := by
  conv => lhs; rw [operands]
  split
  · simp_all
  · rename_i h'
    obtain ⟨rfl, rfl⟩ := Prod.mk.inj (Option.some.inj (h.symm.trans h'))
    rfl

end

/-- Induction along the readers, whatever they note: a level deeper is read only where one is
left. -/
theorem readers_induct (P : Level → Bool → Cursor → Prop) (Items More : Cursor → Prop)
    (Behind : Chain → Nat → Expr → Cursor → Prop)
    (chain : ∀ (m : Bool) (s : Cursor) (c : Chain), P c.operand m s →
      (∀ first : Parsed Expr, Behind c s.depth first.value (s.after first)) → P (.chain c) m s)
    (negation : ∀ (m : Bool) (s : Cursor) (position : Position) (tail : List Placed),
      s.rest = ⟨.not, position⟩ :: tail →
      (s.depth < maxDepth → P .negation true (s.skip 1).deeper) → P .negation m s)
    (plain : ∀ (m : Bool) (s : Cursor), (∀ position tail, s.rest ≠ ⟨.not, position⟩ :: tail) →
      P (.chain .equality) true s → P .negation m s)
    (leaf : ∀ (m : Bool) (s : Cursor) (leaf : Expr), s.token.leaf? = some leaf → P .primary m s)
    (list : ∀ (m : Bool) (s : Cursor) (position : Position) (tail : List Placed),
      s.rest = ⟨.leftBracket, position⟩ :: tail →
      (s.depth < maxDepth → Items (s.skip 1).deeper) → P .primary m s)
    (parens : ∀ (m : Bool) (s : Cursor) (position : Position) (tail : List Placed),
      s.rest = ⟨.leftParen, position⟩ :: tail →
      (s.depth < maxDepth → P (.chain .disjunction) true (s.skip 1).deeper) → P .primary m s)
    (unopened : ∀ (m : Bool) (s : Cursor), s.token.leaf? = none →
      (∀ position tail, s.rest ≠ ⟨.leftBracket, position⟩ :: tail) →
      (∀ position tail, s.rest ≠ ⟨.leftParen, position⟩ :: tail) → P .primary m s)
    (close : ∀ (s : Cursor) (position : Position) (tail : List Placed),
      s.rest = ⟨.rightBracket, position⟩ :: tail → Items s)
    (items : ∀ s : Cursor, (∀ position tail, s.rest ≠ ⟨.rightBracket, position⟩ :: tail) →
      More s → Items s)
    (item : ∀ s : Cursor, P (.chain .disjunction) true s →
      (∀ item : Parsed Expr, (s.after item).token = .comma → More ((s.after item).skip 1)) → More s)
    (stop : ∀ (c : Chain) (base : Nat) (left : Expr) (s : Cursor), c.operator? s.rest = none →
      Behind c base left s)
    (operand : ∀ (c : Chain) (base : Nat) (left : Expr) (s : Cursor) (op : Operator) (n : Nat),
      c.operator? s.rest = some (op, n) →
      (s.depth < maxDepth → P c.operand false (s.skip n).deeper) →
      (s.depth < maxDepth → ∀ right : Parsed Expr,
        Behind c base (.binary op left right.value) ((s.skip n).deeper.after right)) →
      Behind c base left s) :
    (∀ (level : Level) (m : Bool) (s : Cursor), P level m s) ∧ (∀ s : Cursor, Items s) ∧
      (∀ s : Cursor, More s) ∧
      ∀ (c : Chain) (base : Nat) (left : Expr) (s : Cursor), Behind c base left s := by
  -- A reader and its body have the same motive. Where no level is left, the same case applies, and
  -- what it supposes of the level deeper is vacuous.
  have hall := phrase.mutual_induct P P Items Items More Behind (fun _ _ _ => id) chain
    (fun m s position tail hrest _ ih => negation m s position tail hrest fun _ => ih)
    (fun m s position tail hrest hlt => negation m s position tail hrest fun h => absurd h hlt)
    plain leaf
    (fun m s _ position tail hrest _ ih => list m s position tail hrest fun _ => ih)
    (fun m s _ position tail hrest hlt => list m s position tail hrest fun h => absurd h hlt)
    (fun m s _ position tail hrest _ ih => parens m s position tail hrest fun _ => ih)
    (fun m s _ position tail hrest hlt => parens m s position tail hrest fun h => absurd h hlt)
    unopened (fun _ => id) close items
    (fun s ih ihMore => item s ih fun item hcomma => by
      obtain ⟨position, tail, hrest⟩ := token_eq hcomma (by simp)
      exact ihMore item position tail hrest)
    stop
    (fun c base left s op n hop _ ih ihMore =>
      operand c base left s op n hop (fun _ => ih) fun _ => ihMore)
    (fun c base left s op n hop hlt =>
      operand c base left s op n hop (fun h => absurd h hlt) fun h => absurd h hlt)
  exact ⟨hall.1, hall.2.2.1, hall.2.2.2.2.1, hall.2.2.2.2.2⟩

section

variable {s : Cursor} {position : Position} {tail : List Placed} (mayNegate : Bool)

theorem descend_eq_ok_iff {α : Type} {d : Nat} {x : Except ParseError α} {e : ParseError} {a : α} :
    (if d < maxDepth then x else .error e) = .ok a ↔ d < maxDepth ∧ x = .ok a := by
  split <;> rename_i hlt <;> simp [hlt]

theorem read_eq (level : Level) (s : Cursor) :
    s.read level mayNegate = s.phraseBody level mayNegate :=
  phrase_eq mayNegate level s

theorem read_chain (c : Chain) (s : Cursor) :
    s.read (.chain c) mayNegate = (do
      let first ← s.read c.operand mayNegate
      let all ← (s.after first).readChain c s.depth first.value
      return ⟨all.value, first.taken + all.taken, all.depth⟩) :=
  (read_eq mayNegate _ s).trans (phraseBody_chain mayNegate c s)

theorem read_not (h : s.rest = ⟨.not, position⟩ :: tail) :
    s.read .negation mayNegate =
      if s.depth < maxDepth then do
        let operand ← (s.skip 1).deeper.read .negation true
        return ⟨.not operand.value, operand.taken + 1, operand.depth - 1⟩
      else .error (s.skip 1).tooDeep :=
  (read_eq mayNegate _ s).trans (phraseBody_not mayNegate h)

theorem read_plain (h : ∀ position tail, s.rest ≠ ⟨.not, position⟩ :: tail) :
    s.read .negation mayNegate = s.read (.chain .equality) true :=
  (read_eq mayNegate _ s).trans (phraseBody_plain mayNegate h)

theorem read_leaf {leaf : Expr} (h : s.token.leaf? = some leaf) :
    s.read .primary mayNegate = .ok ⟨leaf, 1, s.depth⟩ :=
  (read_eq mayNegate _ s).trans (phraseBody_leaf mayNegate h)

theorem read_leftBracket (h : s.rest = ⟨.leftBracket, position⟩ :: tail) :
    s.read .primary mayNegate =
      if s.depth < maxDepth then do
        let items ← (s.skip 1).deeper.readItems
        return ⟨.list items.value, items.taken + 1, items.depth - 1⟩
      else .error (s.skip 1).tooDeep :=
  (read_eq mayNegate _ s).trans (phraseBody_leftBracket mayNegate h)

theorem read_leftParen (h : s.rest = ⟨.leftParen, position⟩ :: tail) :
    s.read .primary mayNegate =
      if s.depth < maxDepth then do
        let content ← (s.skip 1).deeper.read (.chain .disjunction) true
        match ((s.skip 1).deeper.after content).token with
        | .rightParen => return ⟨content.value, content.taken + 2, content.depth - 1⟩
        | _ => .error (((s.skip 1).deeper.after content).unexpected [")"])
      else .error (s.skip 1).tooDeep :=
  (read_eq mayNegate _ s).trans (phraseBody_leftParen mayNegate h)

theorem read_unopened (hleaf : s.token.leaf? = none)
    (hbracket : ∀ position tail, s.rest ≠ ⟨.leftBracket, position⟩ :: tail)
    (hparen : ∀ position tail, s.rest ≠ ⟨.leftParen, position⟩ :: tail) :
    s.read .primary mayNegate = .error (s.unexpected (expectedKinds mayNegate)) :=
  (read_eq mayNegate _ s).trans (phraseBody_unopened mayNegate hleaf hbracket hparen)

theorem readItems_eq (s : Cursor) : s.readItems = s.itemsBody :=
  items_eq s

theorem readItems_close (h : s.rest = ⟨.rightBracket, position⟩ :: tail) :
    s.readItems = .ok ⟨[], 1, s.depth⟩ :=
  (readItems_eq s).trans (itemsBody_close h)

theorem readItems_open (h : ∀ position tail, s.rest ≠ ⟨.rightBracket, position⟩ :: tail) :
    s.readItems = s.readMoreItems :=
  (readItems_eq s).trans (itemsBody_open h)

theorem readMoreItems_eq (s : Cursor) :
    s.readMoreItems = (do
      let item ← s.read (.chain .disjunction) true
      match (s.after item).token with
      | .rightBracket => return ⟨[item.value], item.taken + 1, item.depth⟩
      | .comma =>
        let more ← ((s.after item).skip 1).readMoreItems
        return ⟨item.value :: more.value, item.taken + 1 + more.taken, more.depth⟩
      | _ => .error ((s.after item).unexpected [",", "]"])) :=
  moreItems_eq s

theorem readChain_stop {c : Chain} {base : Nat} {left : Expr} (h : c.operator? s.rest = none) :
    s.readChain c base left = .ok ⟨left, 0, base⟩ :=
  operands_stop h

theorem readChain_operator {c : Chain} {base n : Nat} {left : Expr} {op : Operator}
    (h : c.operator? s.rest = some (op, n)) :
    s.readChain c base left =
      if s.depth < maxDepth then do
        let right ← (s.skip n).deeper.read c.operand false
        let more ← ((s.skip n).deeper.after right).readChain c base (.binary op left right.value)
        return ⟨more.value, n + right.taken + more.taken, more.depth⟩
      else .error (s.skip n).tooDeep :=
  operands_operator h

end

end Cursor

theorem parse_def (tokens : List Placed) :
    parse tokens = (do
      let all ← (Cursor.ofTokens tokens).readExpression
      match ((Cursor.ofTokens tokens).after all).token with
      | .eof => return all.value
      | _ => .error (((Cursor.ofTokens tokens).after all).unexpected [Token.eof.toText])) :=
  rfl

end EventRouting
