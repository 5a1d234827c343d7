import EventRouting.Proofs.Statement.Reading

set_option autoImplicit false

/-!
# Where reading breaks off

Where no phrase can be read, the tokens up to some place begin one, and the token there does not
go on with it. `Breaks level mayNegate d ts rest kinds` says this by rules, one for each place at
which a reader complains and one for each part of a phrase it can be inside of: behind the tokens
`ts`, which stand at level `d`, something of `kinds` is expected and `rest` is found. The main
statement is that readers complain of an unexpected token where these rules say so.
-/
namespace EventRouting

open Fallible

mutual

inductive Breaks : Level → Bool → Nat → List Token → List Token → List String → Prop
  | first {c : Chain} {m : Bool} {d : Nat} {ts rest : List Token} {kinds : List String} :
      Breaks c.operand m d ts rest kinds → Breaks (.chain c) m d ts rest kinds
  | further {c : Chain} {m : Bool} {d p : Nat} {ts us rest : List Token} {first : Expr}
      {kinds : List String} :
      Derives c.operand d ts first p → p ≤ maxDepth → BreaksBehind c d us rest kinds →
      Breaks (.chain c) m d (ts ++ us) rest kinds
  | negation {m : Bool} {d : Nat} {ts rest : List Token} {kinds : List String} :
      d < maxDepth → Breaks .negation true (d + 1) ts rest kinds →
      Breaks .negation m d (.not :: ts) rest kinds
  | plain {m : Bool} {d : Nat} {ts rest : List Token} {kinds : List String} :
      (ts ++ rest).head? ≠ some .not → Breaks (.chain .equality) true d ts rest kinds →
      Breaks .negation m d ts rest kinds
  | operand {m : Bool} {d : Nat} {rest : List Token} :
      (∀ t ∈ rest.head?, ¬t.Opens) → Breaks .primary m d [] rest (expectedKinds m)
  | list {m : Bool} {d : Nat} {ts rest : List Token} {kinds : List String} :
      d < maxDepth → (ts ++ rest).head? ≠ some .rightBracket →
      BreaksItems (d + 1) ts rest kinds → Breaks .primary m d (.leftBracket :: ts) rest kinds
  | parens {m : Bool} {d : Nat} {ts rest : List Token} {kinds : List String} :
      d < maxDepth → Breaks (.chain .disjunction) true (d + 1) ts rest kinds →
      Breaks .primary m d (.leftParen :: ts) rest kinds
  | unclosed {m : Bool} {d p : Nat} {ts rest : List Token} {e : Expr} :
      Derives (.chain .disjunction) (d + 1) ts e p → p ≤ maxDepth →
      (Level.chain .disjunction).Stops rest → rest.head? ≠ some .rightParen →
      Breaks .primary m d (.leftParen :: ts) rest [")"]

/-- The same behind an operand of a chain that stands at level `d`. -/
inductive BreaksBehind : Chain → Nat → List Token → List Token → List String → Prop
  | operand {c : Chain} {d : Nat} {symbol ts rest : List Token} {op : Operator}
      {kinds : List String} :
      c.Joint symbol op → d < maxDepth → Breaks c.operand false (d + 1) ts rest kinds →
      BreaksBehind c d (symbol ++ ts) rest kinds
  | more {c : Chain} {d p : Nat} {symbol ts us rest : List Token} {op : Operator} {right : Expr}
      {kinds : List String} :
      c.Joint symbol op → Derives c.operand (d + 1) ts right p → p ≤ maxDepth →
      BreaksBehind c (d + 1) us rest kinds → BreaksBehind c d (symbol ++ (ts ++ us)) rest kinds

inductive BreaksItems : Nat → List Token → List Token → List String → Prop
  | item {d : Nat} {ts rest : List Token} {kinds : List String} :
      Breaks (.chain .disjunction) true d ts rest kinds → BreaksItems d ts rest kinds
  | unclosed {d p : Nat} {ts rest : List Token} {e : Expr} :
      Derives (.chain .disjunction) d ts e p → p ≤ maxDepth →
      (Level.chain .disjunction).Stops rest →
      rest.head? ≠ some .comma → rest.head? ≠ some .rightBracket →
      BreaksItems d ts rest [",", "]"]
  | more {d p : Nat} {ts us rest : List Token} {e : Expr} {kinds : List String} :
      Derives (.chain .disjunction) d ts e p → p ≤ maxDepth → BreaksItems d us rest kinds →
      BreaksItems d (ts ++ .comma :: us) rest kinds

end

theorem BreaksBehind.stops {c : Chain} {d : Nat} {us rest : List Token} {kinds : List String}
    (h : BreaksBehind c d us rest kinds) (more : List Token) : c.operand.Stops (us ++ more) := by
  cases h with
  | operand joint _ _ =>
    rw [List.append_assoc]
    exact Level.stops_joint joint _
  | more joint _ _ _ =>
    rw [List.append_assoc]
    exact Level.stops_joint joint _

theorem Derives.depth_lt {level : Level} {d p : Nat} {ts : List Token} {e : Expr}
    (h : Derives level (d + 1) ts e p) (hp : p ≤ maxDepth) : d < maxDepth :=
  Nat.lt_of_lt_of_le h.le_peak hp

theorem Derives.read_eq {level : Level} {d p : Nat} {ts rest : List Token} {e : Expr} {s : Cursor}
    (h : Derives level d ts e p) (mayNegate : Bool) (hp : p ≤ maxDepth) (hd : s.depth = d)
    (hs : s.tokens = ts ++ rest) (hrest : level.Stops rest) :
    s.read level mayNegate = .ok ⟨e, ts.length, d⟩ := by
  rcases h.settles mayNegate (Nat.le_trans h.le_peak hp) hd hs hrest with ⟨-, hread⟩ | ⟨hdeep, -⟩
  · exact hread
  · exact absurd hp (Nat.not_le.2 hdeep)

namespace Cursor

theorem head?_eq_iff {s : Cursor} {t : Token} :
    s.tokens.head? = some t ↔ ∃ position tail, s.rest = ⟨t, position⟩ :: tail := by
  constructor
  · intro h
    obtain ⟨ts, hts⟩ := List.head?_eq_some_iff.1 h
    exact rest_of_tokens hts
  · rintro ⟨position, tail, hrest⟩
    simp [tokens, hrest]

theorem head?_ne_iff {s : Cursor} {t : Token} :
    s.tokens.head? ≠ some t ↔ ∀ position tail, s.rest ≠ ⟨t, position⟩ :: tail := by
  simp only [ne_eq, head?_eq_iff, not_exists]

theorem token_ne_iff {s : Cursor} {t : Token} (ht : t ≠ .eof) :
    s.token ≠ t ↔ s.tokens.head? ≠ some t := by
  rw [head?_ne_iff]
  constructor
  · intro h position tail hrest
    exact h (token_of_rest hrest)
  · intro h htoken
    obtain ⟨position, tail, hrest⟩ := token_eq htoken ht
    exact h position tail hrest

theorem tokens_behind {α : Type} {s : Cursor} {ts rest : List Token} (h : s.tokens = ts ++ rest)
    (v : α) (d : Nat) : (s.after ⟨v, ts.length, d⟩).tokens = rest := by
  rw [tokens_after, h, List.drop_left]

theorem skip_skip (s : Cursor) (m n : Nat) : (s.skip m).skip n = s.skip (m + n) := by
  simp [skip, List.drop_drop, Nat.add_assoc]

theorem not_opens_iff {s : Cursor} : (∀ t ∈ s.tokens.head?, ¬t.Opens) ↔
    s.token.leaf? = none ∧ (∀ position tail, s.rest ≠ ⟨.leftBracket, position⟩ :: tail) ∧
      ∀ position tail, s.rest ≠ ⟨.leftParen, position⟩ :: tail := by
  constructor
  · intro h
    refine ⟨?_, fun position tail hrest => ?_, fun position tail hrest => ?_⟩
    · by_contra hleaf
      obtain ⟨leaf, hleaf⟩ := Option.ne_none_iff_exists'.1 hleaf
      obtain ⟨position, tail, hrest⟩ := rest_of_leaf hleaf
      exact absurd (.inl (by simp [hleaf])) (h _ (head?_eq_iff.2 ⟨_, _, hrest⟩))
    · exact absurd (.inr (.inl rfl)) (h _ (head?_eq_iff.2 ⟨_, _, hrest⟩))
    · exact absurd (.inr (.inr rfl)) (h _ (head?_eq_iff.2 ⟨_, _, hrest⟩))
  · rintro ⟨hleaf, hbracket, hparen⟩ t ht
    obtain ⟨position, tail, hrest⟩ := head?_eq_iff.1 ht
    rintro (hopens | rfl | rfl)
    · simp [← token_of_rest hrest, hleaf] at hopens
    · exact hbracket position tail hrest
    · exact hparen position tail hrest

theorem unexpected_skip_deeper (s : Cursor) (m n : Nat) (kinds : List String) :
    ((s.skip m).deeper.skip n).unexpected kinds = (s.skip (m + n)).unexpected kinds := by
  simp [unexpected, token, position, skip, deeper, List.drop_drop]

theorem unexpected_after {α : Type} (s : Cursor) (p : Parsed α) (n : Nat) (kinds : List String) :
    ((s.after p).skip n).unexpected kinds = (s.skip (p.taken + n)).unexpected kinds := by
  simp [unexpected, token, position, skip, after, List.drop_drop]

end Cursor

open Cursor

mutual

/-- Where a phrase breaks off, its reader complains of the token there. -/
theorem Breaks.read_eq {level : Level} {m : Bool} {d : Nat} {ts rest : List Token}
    {kinds : List String} {s : Cursor} :
    Breaks level m d ts rest kinds → d ≤ maxDepth → s.depth = d → s.tokens = ts ++ rest →
    s.read level m = .error ((s.skip ts.length).unexpected kinds)
  | .first inner, hmax, hd, hs => by
    rw [Cursor.read_chain, inner.read_eq hmax hd hs]
    rfl
  | @Breaks.further c _ _ _ ts us _ v _ first hp behind, hmax, hd, hs => by
    rw [List.append_assoc] at hs
    have hfirst := first.read_eq m hp hd hs (behind.stops rest)
    have hbehind := behind.read_eq d v (s := s.after ⟨v, ts.length, d⟩) hmax rfl
      (tokens_behind hs v d)
    rw [Cursor.read_chain, hfirst, hd, ok_bind, hbehind, unexpected_after, List.length_append]
    rfl
  | @Breaks.negation _ _ ts _ _ hlt operand, _, hd, hs => by
    obtain ⟨position, tail, hrest⟩ := rest_of_tokens hs
    have hoperand := operand.read_eq (s := (s.skip 1).deeper) hlt (by simp [hd]) (by simp [hs])
    rw [read_not _ hrest, hd, if_pos hlt, hoperand, unexpected_skip_deeper, Nat.add_comm]
    rfl
  | .plain hnot inner, hmax, hd, hs => by
    rw [read_plain _ (head?_ne_iff.1 (hs ▸ hnot))]
    exact inner.read_eq hmax hd hs
  | .operand hopens, _, _, hs =>
    have ⟨hleaf, hbracket, hparen⟩ := not_opens_iff.1 (hs ▸ hopens)
    read_unopened _ hleaf hbracket hparen
  | @Breaks.list _ _ ts _ _ hlt hclose items, _, hd, hs => by
    obtain ⟨position, tail, hrest⟩ := rest_of_tokens hs
    have htokens : (s.skip 1).deeper.tokens = ts ++ rest := by simp [hs]
    have hitems := items.read_eq (s := (s.skip 1).deeper) hlt (by simp [hd]) htokens
    rw [read_leftBracket _ hrest, hd, if_pos hlt,
      readItems_open (head?_ne_iff.1 (htokens ▸ hclose)),
      hitems, unexpected_skip_deeper, Nat.add_comm]
    rfl
  | @Breaks.parens _ _ ts _ _ hlt inner, _, hd, hs => by
    obtain ⟨position, tail, hrest⟩ := rest_of_tokens hs
    have hinner := inner.read_eq (s := (s.skip 1).deeper) hlt (by simp [hd]) (by simp [hs])
    rw [read_leftParen _ hrest, hd, if_pos hlt, hinner, unexpected_skip_deeper, Nat.add_comm]
    rfl
  | @Breaks.unclosed _ d _ ts _ v inner hp hstops hclose, _, hd, hs => by
    obtain ⟨position, tail, hrest⟩ := rest_of_tokens hs
    have htokens : (s.skip 1).deeper.tokens = ts ++ rest := by simp [hs]
    have hinner := inner.read_eq true hp (s := (s.skip 1).deeper) (by simp [hd]) htokens hstops
    have hbehind : ((s.skip 1).deeper.after ⟨v, ts.length, d + 1⟩).token ≠ .rightParen :=
      (token_ne_iff (by simp)).2 (by rwa [tokens_behind htokens])
    rw [read_leftParen _ hrest, hd, if_pos (inner.depth_lt hp), hinner, ok_bind]
    split
    · exact absurd ‹_› hbehind
    · rw [List.length_cons, Nat.add_comm ts.length, ← unexpected_skip_deeper]
      rfl

theorem BreaksBehind.read_eq {c : Chain} {d : Nat} {us rest : List Token} {kinds : List String}
    {s : Cursor} (base : Nat) (left : Expr) :
    BreaksBehind c d us rest kinds → d ≤ maxDepth → s.depth = d → s.tokens = us ++ rest →
    s.readChain c base left = .error ((s.skip us.length).unexpected kinds)
  | @BreaksBehind.operand _ _ symbol ts _ _ _ joint hlt inner, _, hd, hs => by
    rw [List.append_assoc] at hs
    have hinner := inner.read_eq (s := (s.skip symbol.length).deeper) hlt (by simp [hd])
      (by simp [hs])
    rw [readChain_operator (Chain.operator?_of_joint joint hs), hd, if_pos hlt, hinner,
      unexpected_skip_deeper, List.length_append]
    rfl
  | @BreaksBehind.more _ _ _ symbol ts us _ op v _ joint right hp behind, _, hd, hs => by
    simp only [List.append_assoc] at hs
    have hlt := right.depth_lt hp
    have hright := right.read_eq false hp (s := (s.skip symbol.length).deeper) (by simp [hd])
      (by simp [hs]) (behind.stops rest)
    have hbehind := behind.read_eq base (.binary op left v)
      (s := (s.skip symbol.length).deeper.after ⟨v, ts.length, d + 1⟩) hlt rfl (by simp [hs])
    rw [readChain_operator (Chain.operator?_of_joint joint hs), hd, if_pos hlt, hright, ok_bind,
      hbehind, unexpected_after, unexpected_skip_deeper, List.length_append, List.length_append]
    rfl

theorem BreaksItems.read_eq {d : Nat} {ts rest : List Token} {kinds : List String} {s : Cursor} :
    BreaksItems d ts rest kinds → d ≤ maxDepth → s.depth = d → s.tokens = ts ++ rest →
    s.readMoreItems = .error ((s.skip ts.length).unexpected kinds)
  | .item inner, hmax, hd, hs => by
    rw [readMoreItems_eq, inner.read_eq hmax hd hs]
    rfl
  | @BreaksItems.unclosed _ _ ts _ v item hp hstops hcomma hclose, _, hd, hs => by
    rw [← tokens_behind hs v d, ← token_ne_iff (by simp)] at hcomma hclose
    rw [readMoreItems_eq, item.read_eq true hp hd hs hstops, ok_bind]
    split
    · exact absurd ‹_› hclose
    · exact absurd ‹_› hcomma
    · rfl
  | @BreaksItems.more _ _ ts us _ v _ item hp items, hmax, hd, hs => by
    simp only [List.append_assoc, List.cons_append] at hs
    have htokens := tokens_behind hs v d
    have hitems := items.read_eq (s := (s.after ⟨v, ts.length, d⟩).skip 1) hmax rfl
      (by rw [tokens_skip, htokens, List.drop_one, List.tail_cons])
    rw [readMoreItems_eq, item.read_eq true hp hd hs (Level.stops_cons _ (by simp)), ok_bind]
    simp only [token_of_tokens htokens]
    rw [hitems, skip_skip, unexpected_after, List.length_append, List.length_cons, Nat.add_comm 1]
    rfl

end

end EventRouting
