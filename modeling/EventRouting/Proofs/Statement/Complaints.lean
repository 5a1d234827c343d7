import EventRouting.Proofs.Statement.Faults

set_option autoImplicit false

namespace EventRouting

open Fallible

/-- What an outcome is known to be: the value satisfies `answers`, or the kinds of which one was
expected satisfy `complains`. Nothing is said of nesting too deep. -/
def Explains {α : Type} (answers : Parsed α → Prop) (complains : List String → Prop) :
    Except ParseError (Parsed α) → Prop
  | .ok r => answers r
  | .error (.unexpected _ _ kinds) => complains kinds
  | .error (.nestingTooDeep _ _) => True

namespace Explains

variable {α β : Type} {x : Except ParseError (Parsed α)}
  {f : Parsed α → Except ParseError (Parsed β)} {answers : Parsed α → Prop}
  {answers' : Parsed β → Prop} {complains complains' : List String → Prop}

theorem bind (hx : Explains answers complains x)
    (hkinds : ∀ kinds, complains kinds → complains' kinds)
    (hf : ∀ r, x = .ok r → answers r → Explains answers' complains' (f r)) :
    Explains answers' complains' (x >>= f) :=
  match x, hx with
  | .ok r, hr => hf r rfl hr
  | .error (.unexpected _ _ kinds), h => hkinds kinds h
  | .error (.nestingTooDeep _ _), _ => trivial

theorem bind_ok {g : Parsed α → Parsed β} (hx : Explains answers complains x)
    (hkinds : ∀ kinds, complains kinds → complains' kinds)
    (hg : ∀ r, x = .ok r → answers r → answers' (g r)) :
    Explains answers' complains' (x >>= fun r => .ok (g r)) :=
  hx.bind hkinds hg

theorem descend {s : Cursor} {d : Nat} (h : d < maxDepth → Explains answers complains x) :
    Explains answers complains (if d < maxDepth then x else .error s.tooDeep) := by
  split
  · exact h ‹_›
  · trivial

theorem mono {answers' : Parsed α → Prop} (hx : Explains answers complains x)
    (hanswers : ∀ r, answers r → answers' r)
    (hkinds : ∀ kinds, complains kinds → complains' kinds) : Explains answers' complains' x :=
  match x, hx with
  | .ok r, hr => hanswers r hr
  | .error (.unexpected _ _ kinds), h => hkinds kinds h
  | .error (.nestingTooDeep _ _), _ => trivial

end Explains

theorem Chain.rank_operand (c : Chain) : c.operand.rank + 1 = (Level.chain c).rank := by
  cases c <;> rfl

namespace Level

theorem stops_primary (rest : List Token) : Level.primary.Stops rest :=
  fun c _ _ _ hrank => absurd hrank (Nat.not_le.2 c.rank_pos)

theorem Stops.negation {rest : List Token} (h : (Level.chain .equality).Stops rest) :
    Level.negation.Stops rest := by
  intro c symbol op xs hrank
  exact h c symbol op xs (by cases c <;> revert hrank <;> decide)

theorem Stops.chain {c : Chain} {ps : List Placed} (h : c.operand.Stops (ps.map (·.token)))
    (hop : c.operator? ps = none) : (Level.chain c).Stops (ps.map (·.token)) := by
  intro c' symbol op xs hrank joint heq
  rcases Nat.lt_or_ge c.operand.rank (Level.chain c').rank with hlt | hle
  · have hsame : (Level.chain c').rank = (Level.chain c).rank := by
      have hoperand := c.rank_operand
      omega
    obtain rfl := Level.chain.inj (Level.rank_inj hsame)
    simp [Chain.operator?_of_joint joint heq] at hop
  · exact h c' symbol op xs hle joint heq

end Level

namespace Cursor

theorem tokens_of_rest {s : Cursor} {t : Token} {position : Position} {tail : List Placed}
    (h : s.rest = ⟨t, position⟩ :: tail) : s.tokens = [t] ++ (s.skip 1).tokens := by
  simp [tokens, skip, h]

theorem tokens_eq_upTo_append (s : Cursor) (n : Nat) :
    s.tokens = s.upTo n ++ (s.skip n).tokens := by
  simp [tokens, upTo, skip]

/-- The tokens of a cursor come apart as `P` says, behind `n` of them or more. -/
def SplitsFrom (s : Cursor) (n : Nat) (P : List Token → List Token → Prop) : Prop :=
  ∃ ts rest, n ≤ ts.length ∧ s.tokens = ts ++ rest ∧ P ts rest

theorem SplitsFrom.behind {n : Nat} {s s' : Cursor} {front : List Token}
    {P Q : List Token → List Token → Prop} (h : s'.SplitsFrom n P)
    (hs : s.tokens = front ++ s'.tokens)
    (hQ : ∀ ts rest, s'.tokens = ts ++ rest → P ts rest → Q (front ++ ts) rest) :
    s.SplitsFrom (front.length + n) Q := by
  obtain ⟨ts, rest, hn, hs', hP⟩ := h
  refine ⟨front ++ ts, rest, ?_, by rw [hs, hs', List.append_assoc], hQ ts rest hs' hP⟩
  rw [List.length_append]
  exact Nat.add_le_add_left hn _

theorem SplitsFrom.mono {n n' : Nat} {s : Cursor} {P Q : List Token → List Token → Prop}
    (h : s.SplitsFrom n P) (hn : n' ≤ n)
    (hQ : ∀ ts rest, s.tokens = ts ++ rest → P ts rest → Q ts rest) : s.SplitsFrom n' Q := by
  obtain ⟨ts, rest, hlength, hs, hP⟩ := h
  exact ⟨ts, rest, Nat.le_trans hn hlength, hs, hQ ts rest hs hP⟩

/-- Reading a phrase gets as far as the token at `n`: either it ends there or later, at a place
where its level can stop, or it breaks off there or later. -/
def Reaches (n : Nat) (level : Level) (m : Bool) (s : Cursor) : Prop :=
  Explains (fun r => n ≤ (s.upTo r.taken).length ∧ level.Stops (s.after r).tokens)
    (fun kinds => s.SplitsFrom n fun ts rest => Breaks level m s.depth ts rest kinds)
    (s.read level m)

def ReachesChain (n : Nat) (c : Chain) (base : Nat) (left : Expr) (s : Cursor) : Prop :=
  Explains (fun r => n ≤ (s.upTo r.taken).length ∧ (Level.chain c).Stops (s.after r).tokens)
    (fun kinds => s.SplitsFrom n fun us rest => BreaksBehind c s.depth us rest kinds)
    (s.readChain c base left)

def ReachesItems (n : Nat) (s : Cursor) : Prop :=
  Explains (fun r => n ≤ (s.upTo r.taken).length)
    (fun kinds => s.SplitsFrom n fun ts rest => BreaksItems s.depth ts rest kinds) s.readMoreItems

def ReachesList (n : Nat) (s : Cursor) : Prop :=
  Explains (fun r => n ≤ (s.upTo r.taken).length)
    (fun kinds => s.SplitsFrom n fun ts rest =>
      (ts ++ rest).head? ≠ some .rightBracket ∧ BreaksItems s.depth ts rest kinds) s.readItems

section

variable {s : Cursor} {position : Position} {tail : List Placed} {n k : Nat} {m : Bool}

theorem succ_le_length_upTo {t : Token} (hrest : s.rest = ⟨t, position⟩ :: tail)
    (hn : n ≤ ((s.skip 1).upTo k).length) : 1 + n ≤ (s.upTo (k + 1)).length := by
  rw [upTo_succ hrest, List.length_cons, Nat.add_comm]
  exact Nat.succ_le_succ hn

theorem joint_upTo {c : Chain} {op : Operator} (hop : c.operator? s.rest = some (op, k)) :
    c.Joint (s.upTo k) op ∧ (s.upTo k).length = k := by
  obtain ⟨symbol, joint, rfl, hsymbol⟩ := Chain.joint_of_operator? hop
  rw [show s.upTo symbol.length = symbol from hsymbol]
  exact ⟨joint, rfl⟩

-- A reader goes on behind a part of a phrase. In `further`, `closed`, `more` and `close` it is
-- known what the part gives; in `chain`, `parens`, `operand` and `item` it is whatever reading the
-- part gives, and the step behind it is one of the former.

theorem Reaches.mono {n' : Nat} {level : Level} (h : Reaches n level m s) (hn : n' ≤ n) :
    Reaches n' level m s :=
  Explains.mono h (fun _ hr => ⟨Nat.le_trans hn hr.1, hr.2⟩)
    fun _ hk => hk.mono hn fun _ _ _ => id

theorem Reaches.further {c : Chain} {first : Parsed Expr} (hs : s.depth ≤ maxDepth)
    (hfirst : s.read c.operand m = .ok first)
    (h : ReachesChain n c s.depth first.value (s.after first)) :
    Reaches ((s.upTo first.taken).length + n) (.chain c) m s := by
  have yFirst := read_sound hs hfirst
  obtain ⟨p, hp, derives⟩ := yFirst.derives
  unfold Reaches
  rw [read_chain, hfirst, ok_bind]
  refine h.bind_ok (fun kinds hk => ?_) ?_
  · exact hk.behind (s.tokens_eq_upTo_append first.taken) fun us rest _ h =>
      .further derives hp (by rwa [after_depth, yFirst.depth] at h)
  · rintro all - ⟨hn, hstops⟩
    refine ⟨?_, by simpa using hstops⟩
    rw [upTo_taken_add, List.length_append]
    exact Nat.add_le_add_left hn _

theorem Reaches.chain {c : Chain} (hs : s.depth ≤ maxDepth) (h : Reaches n c.operand m s)
    (hmore : ∀ first, s.read c.operand m = .ok first → c.operand.Stops (s.after first).tokens →
      ReachesChain 0 c s.depth first.value (s.after first)) : Reaches n (.chain c) m s := by
  unfold Reaches
  rw [read_chain]
  refine h.bind (fun kinds hk => hk.mono (Nat.le_refl n) fun _ _ _ => .first) ?_
  rintro first hfirst ⟨hn, hstops⟩
  have hall := (Reaches.further hs hfirst (hmore first hfirst hstops)).mono hn
  rwa [Reaches, read_chain, hfirst, ok_bind] at hall

theorem Reaches.negation (hrest : s.rest = ⟨.not, position⟩ :: tail)
    (h : s.depth < maxDepth → Reaches n .negation true (s.skip 1).deeper) :
    Reaches (1 + n) .negation m s := by
  unfold Reaches
  rw [read_not _ hrest]
  refine .descend fun hlt => (h hlt).bind_ok (fun kinds hk => ?_) ?_
  · exact hk.behind (tokens_of_rest hrest) fun ts rest _ h => .negation hlt h
  · rintro operand - ⟨hn, hstops⟩
    exact ⟨succ_le_length_upTo hrest hn, by simpa [Nat.add_comm] using hstops⟩

theorem Reaches.plain (hrest : ∀ position tail, s.rest ≠ ⟨.not, position⟩ :: tail)
    (h : Reaches n (.chain .equality) true s) : Reaches n .negation m s := by
  unfold Reaches
  rw [read_plain _ hrest]
  refine Explains.mono h (fun r hr => ⟨hr.1, hr.2.negation⟩) fun kinds hk => ?_
  exact hk.mono (Nat.le_refl n) fun ts rest hs h => .plain (hs ▸ head?_ne_iff.2 hrest) h

theorem Reaches.leaf {leaf : Expr} (hleaf : s.token.leaf? = some leaf) :
    Reaches 1 .primary m s := by
  unfold Reaches
  rw [read_leaf _ hleaf]
  obtain ⟨position, tail, hrest⟩ := rest_of_leaf hleaf
  exact ⟨succ_le_length_upTo hrest (Nat.zero_le _), Level.stops_primary _⟩

theorem Reaches.list (hrest : s.rest = ⟨.leftBracket, position⟩ :: tail)
    (h : s.depth < maxDepth → ReachesList n (s.skip 1).deeper) : Reaches (1 + n) .primary m s := by
  unfold Reaches
  rw [read_leftBracket _ hrest]
  refine .descend fun hlt => (h hlt).bind_ok (fun kinds hk => ?_) ?_
  · exact hk.behind (tokens_of_rest hrest) fun ts rest _ h => .list hlt h.1 h.2
  · rintro items - hn
    exact ⟨succ_le_length_upTo hrest hn, Level.stops_primary _⟩

theorem Reaches.closed {content : Parsed Expr} (hrest : s.rest = ⟨.leftParen, position⟩ :: tail)
    (hlt : s.depth < maxDepth)
    (hcontent : (s.skip 1).deeper.read (.chain .disjunction) true = .ok content)
    (hclose : ((s.skip 1).deeper.after content).token = .rightParen) :
    Reaches (1 + ((s.skip 1).upTo content.taken).length + 1) .primary m s := by
  obtain ⟨_, _, hmore⟩ := token_eq hclose (by simp)
  unfold Reaches
  rw [read_leftParen _ hrest, if_pos hlt, hcontent, ok_bind]
  simp only [hclose]
  have hcontent : ((s.skip 1).upTo content.taken).length + 1 ≤
      ((s.skip 1).deeper.upTo (content.taken + 1)).length := by
    rw [upTo_taken_add, upTo_succ hmore, upTo_deeper]
    simp
  rw [Nat.add_assoc]
  exact ⟨succ_le_length_upTo hrest hcontent, Level.stops_primary _⟩

theorem Reaches.parens (hrest : s.rest = ⟨.leftParen, position⟩ :: tail)
    (h : s.depth < maxDepth → Reaches n (.chain .disjunction) true (s.skip 1).deeper) :
    Reaches (1 + n) .primary m s := by
  unfold Reaches
  rw [read_leftParen _ hrest]
  refine .descend fun hlt => (h hlt).bind (fun kinds hk => ?_) ?_
  · exact hk.behind (tokens_of_rest hrest) fun ts rest _ h => .parens hlt h
  · rintro content hcontent ⟨hn, hstops⟩
    rw [upTo_deeper] at hn
    by_cases hclose : ((s.skip 1).deeper.after content).token = .rightParen
    · have hall := (Reaches.closed (m := m) hrest hlt hcontent hclose).mono
        (show 1 + n ≤ _ by omega)
      rwa [Reaches, read_leftParen _ hrest, if_pos hlt, hcontent, ok_bind] at hall
    · obtain ⟨p, hp, derives⟩ :=
        (read_sound (Nat.succ_le_of_lt hlt) hcontent).derives
      split
      · exact absurd ‹_› hclose
      · refine ⟨.leftParen :: _, _, ?_, ?_,
          .unclosed derives hp hstops ((token_ne_iff (by simp)).1 hclose)⟩
        · rw [List.length_cons, Nat.add_comm]
          exact Nat.succ_le_succ hn
        · rw [tokens_of_rest hrest]
          exact congrArg _ ((s.skip 1).tokens_eq_upTo_append content.taken)

theorem ReachesChain.stop {c : Chain} {base : Nat} {left : Expr} (hop : c.operator? s.rest = none)
    (hstops : c.operand.Stops s.tokens) : ReachesChain 0 c base left s := by
  unfold ReachesChain
  rw [readChain_stop hop]
  exact ⟨Nat.zero_le _, hstops.chain hop⟩

theorem ReachesChain.mono {n' base : Nat} {c : Chain} {left : Expr}
    (h : ReachesChain n c base left s) (hn : n' ≤ n) : ReachesChain n' c base left s :=
  Explains.mono h (fun _ hr => ⟨Nat.le_trans hn hr.1, hr.2⟩)
    fun _ hk => hk.mono hn fun _ _ _ => id

theorem ReachesChain.more {c : Chain} {base : Nat} {left : Expr} {op : Operator}
    {right : Parsed Expr} (hop : c.operator? s.rest = some (op, k)) (hlt : s.depth < maxDepth)
    (hright : (s.skip k).deeper.read c.operand false = .ok right)
    (h : ReachesChain n c base (.binary op left right.value) ((s.skip k).deeper.after right)) :
    ReachesChain (k + ((s.skip k).upTo right.taken).length + n) c base left s := by
  have yRight := read_sound (Nat.succ_le_of_lt hlt) hright
  obtain ⟨p, hp, derives⟩ := yRight.derives
  obtain ⟨joint, hlength⟩ := joint_upTo hop
  have htokens : s.tokens =
      s.upTo (k + right.taken) ++ ((s.skip k).deeper.after right).tokens := by
    rw [s.tokens_eq_upTo_append (k + right.taken), ← skip_skip]
    rfl
  have htaken : (s.upTo (k + right.taken)).length = k + ((s.skip k).upTo right.taken).length := by
    rw [upTo_add, List.length_append, hlength]
  unfold ReachesChain
  rw [readChain_operator hop, if_pos hlt, hright, ok_bind, ← htaken]
  refine h.bind_ok (fun kinds hk => hk.behind htokens fun us rest _ h => ?_) ?_
  · rw [upTo_add, List.append_assoc]
    exact .more joint derives hp (by rwa [after_depth, yRight.depth] at h)
  · rintro more - ⟨hn, hstops⟩
    refine ⟨?_, by simpa [Nat.add_assoc] using hstops⟩
    rw [upTo_add s (k + right.taken), List.length_append, ← skip_skip]
    exact Nat.add_le_add_left hn _

theorem ReachesChain.operand {c : Chain} {base : Nat} {left : Expr} {op : Operator}
    (hop : c.operator? s.rest = some (op, k))
    (h : s.depth < maxDepth → Reaches n c.operand false (s.skip k).deeper)
    (hmore : s.depth < maxDepth → ∀ right, (s.skip k).deeper.read c.operand false = .ok right →
      c.operand.Stops ((s.skip k).deeper.after right).tokens →
      ReachesChain 0 c base (.binary op left right.value) ((s.skip k).deeper.after right)) :
    ReachesChain (k + n) c base left s := by
  obtain ⟨joint, hlength⟩ := joint_upTo hop
  unfold ReachesChain
  rw [readChain_operator hop]
  refine .descend fun hlt => (h hlt).bind (fun kinds hk => ?_) ?_
  · rw [← hlength]
    exact hk.behind (s.tokens_eq_upTo_append k) fun ts rest _ h => .operand joint hlt h
  · rintro right hright ⟨hn, hstops⟩
    rw [upTo_deeper] at hn
    have hall := (ReachesChain.more hop hlt hright (hmore hlt right hright hstops)).mono
      (show k + n ≤ _ by omega)
    rwa [ReachesChain, readChain_operator hop, if_pos hlt, hright, ok_bind] at hall

theorem ReachesItems.mono {n' : Nat} (h : ReachesItems n s) (hn : n' ≤ n) : ReachesItems n' s :=
  Explains.mono h (fun _ => Nat.le_trans hn) fun _ hk => hk.mono hn fun _ _ _ => id

theorem ReachesItems.close {item : Parsed Expr}
    (hitem : s.read (.chain .disjunction) true = .ok item)
    (hclose : (s.after item).token = .rightBracket) :
    ReachesItems ((s.upTo item.taken).length + 1) s := by
  obtain ⟨_, _, hmore⟩ := token_eq hclose (by simp)
  unfold ReachesItems
  rw [readMoreItems_eq, hitem, ok_bind]
  simp only [hclose]
  show _ ≤ (s.upTo (item.taken + 1)).length
  rw [upTo_taken_add, upTo_succ hmore]
  simp

theorem ReachesItems.more {item : Parsed Expr} (hs : s.depth ≤ maxDepth)
    (hitem : s.read (.chain .disjunction) true = .ok item)
    (hcomma : (s.after item).token = .comma) (h : ReachesItems n ((s.after item).skip 1)) :
    ReachesItems ((s.upTo item.taken).length + 1 + n) s := by
  have yItem := read_sound hs hitem
  obtain ⟨p, hp, derives⟩ := yItem.derives
  obtain ⟨_, _, hmore⟩ := token_eq hcomma (by simp)
  have htokens : s.tokens = (s.upTo item.taken ++ [.comma]) ++ ((s.after item).skip 1).tokens := by
    rw [List.append_assoc, ← tokens_of_rest hmore]
    exact s.tokens_eq_upTo_append item.taken
  unfold ReachesItems
  rw [readMoreItems_eq, hitem, ok_bind]
  simp only [hcomma]
  refine h.bind_ok (fun kinds hk => ?_) ?_
  · refine (hk.behind htokens fun us rest _ h => ?_).mono (by simp) fun _ _ _ => id
    rw [List.append_assoc]
    exact .more derives hp (by rwa [skip_depth, after_depth, yItem.depth] at h)
  · rintro more - hn
    show _ ≤ (s.upTo (item.taken + 1 + more.taken)).length
    rw [Nat.add_assoc item.taken, upTo_taken_add, Nat.add_comm 1, upTo_succ hmore]
    simp only [List.length_append, List.length_cons]
    omega

theorem ReachesItems.item (hs : s.depth ≤ maxDepth) (h : Reaches n (.chain .disjunction) true s)
    (hmore : ∀ item, s.read (.chain .disjunction) true = .ok item →
      (s.after item).token = .comma → ReachesItems 0 ((s.after item).skip 1)) :
    ReachesItems n s := by
  unfold ReachesItems
  rw [readMoreItems_eq]
  refine h.bind (fun kinds hk => hk.mono (Nat.le_refl n) fun _ _ _ => .item) ?_
  rintro item hitem ⟨hn, hstops⟩
  by_cases hclose : (s.after item).token = .rightBracket
  · have hall := (ReachesItems.close hitem hclose).mono (Nat.le_succ_of_le hn)
    rwa [ReachesItems, readMoreItems_eq, hitem, ok_bind] at hall
  by_cases hcomma : (s.after item).token = .comma
  · have hall := (ReachesItems.more hs hitem hcomma (hmore item hitem hcomma)).mono
      (Nat.le_succ_of_le hn)
    rwa [ReachesItems, readMoreItems_eq, hitem, ok_bind] at hall
  · obtain ⟨p, hp, derives⟩ := (read_sound hs hitem).derives
    split
    · exact absurd ‹_› hclose
    · exact absurd ‹_› hcomma
    · exact ⟨s.upTo item.taken, _, hn, s.tokens_eq_upTo_append item.taken,
        .unclosed derives hp hstops ((token_ne_iff (by simp)).1 hcomma)
        ((token_ne_iff (by simp)).1 hclose)⟩

theorem ReachesList.close (hrest : s.rest = ⟨.rightBracket, position⟩ :: tail) :
    ReachesList 1 s := by
  unfold ReachesList
  rw [readItems_close hrest]
  exact succ_le_length_upTo (k := 0) hrest (Nat.zero_le 0)

theorem ReachesList.items (hclose : ∀ position tail, s.rest ≠ ⟨.rightBracket, position⟩ :: tail)
    (h : ReachesItems n s) : ReachesList n s := by
  unfold ReachesList
  rw [readItems_open hclose]
  refine Explains.mono h (fun _ => id) fun kinds hk => ?_
  exact hk.mono (Nat.le_refl n) fun ts rest hs h => ⟨hs ▸ head?_ne_iff.2 hclose, h⟩

theorem Reaches.unopened (h : ∀ t ∈ s.tokens.head?, ¬t.Opens) : Reaches 0 .primary m s := by
  obtain ⟨hleaf, hbracket, hparen⟩ := not_opens_iff.1 h
  unfold Reaches
  rw [read_unopened m hleaf hbracket hparen]
  exact ⟨[], s.tokens, Nat.le_refl 0, rfl, .operand h⟩

end

theorem Yields.after_depth_le {level : Level} {s : Cursor} {r : Parsed Expr} (h : Yields level s r)
    (hs : s.depth ≤ maxDepth) : (s.after r).depth ≤ maxDepth := by
  rw [after_depth, h.depth]
  exact hs

/-- Every reader ends where its level can stop, or it has found a break. -/
theorem reaches_all :
    (∀ (level : Level) (m : Bool) (s : Cursor), s.depth ≤ maxDepth → Reaches 0 level m s) ∧
    (∀ s : Cursor, s.depth ≤ maxDepth → ReachesList 0 s) ∧
    (∀ s : Cursor, s.depth ≤ maxDepth → ReachesItems 0 s) ∧
    (∀ (c : Chain) (base : Nat) (left : Expr) (s : Cursor), s.depth ≤ maxDepth →
      c.operand.Stops s.tokens → ReachesChain 0 c base left s) := by
  apply readers_induct
    (fun level m s => s.depth ≤ maxDepth → Reaches 0 level m s)
    (fun s => s.depth ≤ maxDepth → ReachesList 0 s)
    (fun s => s.depth ≤ maxDepth → ReachesItems 0 s)
    (fun c base left s => s.depth ≤ maxDepth → c.operand.Stops s.tokens →
      ReachesChain 0 c base left s)
  case chain =>
    intro m s c ihFirst ihMore hs
    refine .chain hs (ihFirst hs) fun first hfirst hstops => ?_
    exact ihMore first ((read_sound hs hfirst).after_depth_le hs) hstops
  case negation =>
    intro m s position tail hrest ih hs
    exact (Reaches.negation hrest fun hlt => ih hlt hlt).mono (Nat.zero_le _)
  case plain =>
    intro m s hrest ih hs
    exact .plain hrest (ih hs)
  case leaf =>
    intro m s leaf hleaf hs
    exact (Reaches.leaf hleaf).mono (Nat.zero_le _)
  case list =>
    intro m s position tail hrest ih hs
    exact (Reaches.list hrest fun hlt => ih hlt hlt).mono (Nat.zero_le _)
  case parens =>
    intro m s position tail hrest ih hs
    exact (Reaches.parens hrest fun hlt => ih hlt hlt).mono (Nat.zero_le _)
  case unopened =>
    intro m s hleaf hbracket hparen hs
    exact .unopened (not_opens_iff.2 ⟨hleaf, hbracket, hparen⟩)
  case close =>
    intro s position tail hrest hs
    exact Explains.mono (ReachesList.close hrest) (fun _ => Nat.le_of_succ_le)
      fun _ hk => hk.mono (Nat.zero_le _) fun _ _ _ => id
  case items =>
    intro s hrest ih hs
    exact .items hrest (ih hs)
  case item =>
    intro s ihItem ihMore hs
    refine .item hs (ihItem hs) fun item hitem hcomma => ?_
    exact ihMore item hcomma ((read_sound hs hitem).after_depth_le hs)
  case stop =>
    intro c base left s hop hs hstops
    exact .stop hop hstops
  case operand =>
    intro c base left s op n hop ihRight ihMore hs _
    refine (ReachesChain.operand hop (fun hlt => ihRight hlt hlt)
      fun hlt right hright hstops => ?_).mono (Nat.zero_le _)
    have yRight := read_sound (Nat.succ_le_of_lt hlt) hright
    exact ihMore hlt right (yRight.after_depth_le hlt) hstops

theorem reaches {s : Cursor} (hs : s.depth ≤ maxDepth) (level : Level) (m : Bool) :
    Reaches 0 level m s :=
  reaches_all.1 level m s hs

theorem reachesChain_after {c : Chain} {m : Bool} {s : Cursor} {r : Parsed Expr}
    (hs : s.depth ≤ maxDepth) (hr : s.read c.operand m = .ok r)
    (hstops : c.operand.Stops (s.after r).tokens) (base : Nat) (left : Expr) :
    ReachesChain 0 c base left (s.after r) :=
  reaches_all.2.2.2 c base left _ ((read_sound hs hr).after_depth_le hs) hstops

end Cursor
end EventRouting
