import EventRouting.Proofs.Statement.Readers

set_option autoImplicit false

namespace EventRouting.Cursor

open Fallible

/-- What reading a phrase gives: an expression that the taken tokens derive within `maxDepth`. -/
structure Yields (level : Level) (s : Cursor) (r : Parsed Expr) : Prop where
  depth : r.depth = s.depth
  derives : ∃ peak ≤ maxDepth, Derives level s.depth (s.upTo r.taken) r.value peak

structure YieldsChain (c : Chain) (base : Nat) (left : Expr) (s : Cursor) (r : Parsed Expr) :
    Prop where
  depth : r.depth = base
  continues : ∃ peak ≤ maxDepth, Continues c s.depth left (s.upTo r.taken) r.value peak

structure YieldsItems (s : Cursor) (r : Parsed (List Expr)) : Prop where
  depth : r.depth = s.depth
  derives : ∃ ts, s.upTo r.taken = ts ++ [.rightBracket] ∧
    ∃ peak ≤ maxDepth, DerivesItems s.depth ts r.value peak

/-- What reading the inside of brackets that stand at level `d` gives. -/
structure YieldsList (d : Nat) (s : Cursor) (r : Parsed (List Expr)) : Prop where
  depth : r.depth = s.depth
  derives : ∃ peak ≤ maxDepth,
    Derives .primary d (.leftBracket :: s.upTo r.taken) (.list r.value) peak

section

variable {s : Cursor} {position : Position} {tail : List Placed}

theorem Yields.chain {c : Chain} {first all : Parsed Expr} (h : Yields c.operand s first)
    (hmore : YieldsChain c s.depth first.value (s.after first) all) :
    Yields (.chain c) s ⟨all.value, first.taken + all.taken, all.depth⟩ := by
  obtain ⟨p, hp, derives⟩ := h.derives
  obtain ⟨q, hq, continues⟩ := hmore.continues
  rw [after_depth, h.depth] at continues
  refine ⟨hmore.depth, max p q, Nat.max_le.2 ⟨hp, hq⟩, ?_⟩
  rw [upTo_taken_add]
  exact .chain derives continues

theorem Yields.negation {operand : Parsed Expr} (hrest : s.rest = ⟨.not, position⟩ :: tail)
    (h : Yields .negation (s.skip 1).deeper operand) :
    Yields .negation s ⟨.not operand.value, operand.taken + 1, operand.depth - 1⟩ := by
  obtain ⟨p, hp, derives⟩ := h.derives
  refine ⟨by simp [h.depth], p, hp, ?_⟩
  rw [upTo_succ hrest]
  exact .negation derives

theorem Yields.plain {r : Parsed Expr} (h : Yields (.chain .equality) s r) :
    Yields .negation s r := by
  obtain ⟨p, hp, derives⟩ := h.derives
  exact ⟨h.depth, p, hp, .plain derives⟩

theorem Yields.leaf {e : Expr} (hs : s.depth ≤ maxDepth) (h : s.token.leaf? = some e) :
    Yields .primary s ⟨e, 1, s.depth⟩ := by
  have hne : s.token ≠ .eof := by
    rintro heof
    rw [heof] at h
    cases h
  obtain ⟨position, tail, hrest⟩ := token_eq (s := s) rfl hne
  refine ⟨rfl, s.depth, hs, ?_⟩
  rw [upTo_succ hrest]
  exact .leaf h

theorem Yields.list {items : Parsed (List Expr)} (hrest : s.rest = ⟨.leftBracket, position⟩ :: tail)
    (h : YieldsList s.depth (s.skip 1).deeper items) :
    Yields .primary s ⟨.list items.value, items.taken + 1, items.depth - 1⟩ := by
  obtain ⟨p, hp, derives⟩ := h.derives
  refine ⟨by simp [h.depth], p, hp, ?_⟩
  rw [upTo_succ hrest]
  exact derives

theorem Yields.parens {content : Parsed Expr} (hrest : s.rest = ⟨.leftParen, position⟩ :: tail)
    (h : Yields (.chain .disjunction) (s.skip 1).deeper content)
    (hclose : ((s.skip 1).deeper.after content).token = .rightParen) :
    Yields .primary s ⟨content.value, content.taken + 2, content.depth - 1⟩ := by
  obtain ⟨p, hp, derives⟩ := h.derives
  obtain ⟨_, _, hmore⟩ := token_eq hclose (by simp)
  refine ⟨by simp [h.depth], p, hp, ?_⟩
  show Derives _ _ (s.upTo (content.taken + 1 + 1)) _ _
  rw [upTo_succ hrest, ← upTo_deeper, upTo_taken_add, upTo_succ hmore, upTo_zero]
  exact .parens derives

theorem YieldsList.empty {d : Nat} (hrest : s.rest = ⟨.rightBracket, position⟩ :: tail)
    (hd : s.depth = d + 1) (hs : s.depth ≤ maxDepth) : YieldsList d s ⟨[], 1, s.depth⟩ := by
  refine ⟨rfl, d + 1, hd ▸ hs, ?_⟩
  rw [upTo_succ hrest]
  exact .emptyList

theorem YieldsItems.list {d : Nat} {r : Parsed (List Expr)} (hd : s.depth = d + 1)
    (h : YieldsItems s r) : YieldsList d s r := by
  obtain ⟨ts, hts, p, hp, derives⟩ := h.derives
  refine ⟨h.depth, p, hp, ?_⟩
  rw [hts]
  exact .list (hd ▸ derives)

theorem YieldsItems.one {item : Parsed Expr} (h : Yields (.chain .disjunction) s item)
    (hclose : (s.after item).token = .rightBracket) :
    YieldsItems s ⟨[item.value], item.taken + 1, item.depth⟩ := by
  obtain ⟨p, hp, derives⟩ := h.derives
  obtain ⟨_, _, hrest⟩ := token_eq hclose (by simp)
  refine ⟨h.depth, s.upTo item.taken, ?_, p, hp, .one derives⟩
  rw [upTo_taken_add, upTo_succ hrest, upTo_zero]

theorem YieldsItems.more {item : Parsed Expr} {more : Parsed (List Expr)}
    (h : Yields (.chain .disjunction) s item) (hcomma : (s.after item).token = .comma)
    (hmore : YieldsItems ((s.after item).skip 1) more) :
    YieldsItems s ⟨item.value :: more.value, item.taken + 1 + more.taken, more.depth⟩ := by
  obtain ⟨p, hp, derives⟩ := h.derives
  obtain ⟨us, hus, q, hq, derivesMore⟩ := hmore.derives
  obtain ⟨_, _, hrest⟩ := token_eq hcomma (by simp)
  rw [skip_depth, after_depth, h.depth] at derivesMore
  refine ⟨by simp [hmore.depth, h.depth], s.upTo item.taken ++ .comma :: us, ?_,
    max p q, Nat.max_le.2 ⟨hp, hq⟩, .more derives derivesMore⟩
  show s.upTo (item.taken + 1 + more.taken) = _
  rw [Nat.add_assoc, upTo_taken_add, Nat.add_comm 1, upTo_succ hrest, hus]
  simp

theorem YieldsChain.more {c : Chain} {base n : Nat} {left : Expr} {op : Operator}
    {right more : Parsed Expr} (hop : c.operator? s.rest = some (op, n))
    (h : Yields c.operand (s.skip n).deeper right)
    (hmore : YieldsChain c base (.binary op left right.value)
      ((s.skip n).deeper.after right) more) :
    YieldsChain c base left s ⟨more.value, n + right.taken + more.taken, more.depth⟩ := by
  obtain ⟨p, hp, derives⟩ := h.derives
  obtain ⟨q, hq, continues⟩ := hmore.continues
  obtain ⟨symbol, joint, -, hsymbol⟩ := Chain.joint_of_operator? hop
  rw [after_depth, h.depth] at continues
  refine ⟨hmore.depth, max p q, Nat.max_le.2 ⟨hp, hq⟩, ?_⟩
  show Continues c s.depth left (s.upTo (n + right.taken + more.taken)) more.value _
  rw [Nat.add_assoc, upTo_add, show s.upTo n = symbol from hsymbol, ← upTo_deeper (s.skip n),
    upTo_taken_add]
  exact .more joint derives continues

end

theorem read_sound_all :
    (∀ (level : Level) (mayNegate : Bool) (s : Cursor), s.depth ≤ maxDepth →
      ∀ r, s.read level mayNegate = .ok r → Yields level s r) ∧
    (∀ s : Cursor, s.depth ≤ maxDepth → ∀ d, s.depth = d + 1 →
      ∀ r, s.readItems = .ok r → YieldsList d s r) ∧
    (∀ s : Cursor, s.depth ≤ maxDepth → ∀ r, s.readMoreItems = .ok r → YieldsItems s r) ∧
    (∀ (c : Chain) (base : Nat) (left : Expr) (s : Cursor), s.depth ≤ maxDepth →
      ∀ r, s.readChain c base left = .ok r → YieldsChain c base left s r) := by
  apply readers_induct
    (fun level mayNegate s => s.depth ≤ maxDepth →
      ∀ r, s.read level mayNegate = .ok r → Yields level s r)
    (fun s => s.depth ≤ maxDepth → ∀ d, s.depth = d + 1 →
      ∀ r, s.readItems = .ok r → YieldsList d s r)
    (fun s => s.depth ≤ maxDepth → ∀ r, s.readMoreItems = .ok r → YieldsItems s r)
    (fun c base left s => s.depth ≤ maxDepth →
      ∀ r, s.readChain c base left = .ok r → YieldsChain c base left s r)
  case chain =>
    intro mayNegate s c ihFirst ihMore hs r hr
    rw [read_chain] at hr
    obtain ⟨first, hfirst, hr⟩ := bind_eq_ok_iff.1 hr
    obtain ⟨all, hall, hr⟩ := bind_eq_ok_iff.1 hr
    cases hr
    have yFirst := ihFirst hs first hfirst
    exact yFirst.chain (ihMore first (by rw [after_depth, yFirst.depth]; exact hs) all hall)
  case negation =>
    intro mayNegate s position tail hrest ih hs r hr
    rw [read_not _ hrest] at hr
    obtain ⟨hlt, hr⟩ := descend_eq_ok_iff.1 hr
    obtain ⟨operand, hoperand, hr⟩ := bind_eq_ok_iff.1 hr
    cases hr
    exact (ih hlt hlt operand hoperand).negation hrest
  case plain =>
    intro mayNegate s hrest ih hs r hr
    rw [read_plain _ hrest] at hr
    exact (ih hs r hr).plain
  case leaf =>
    intro mayNegate s leaf hleaf hs r hr
    rw [read_leaf _ hleaf] at hr
    cases hr
    exact .leaf hs hleaf
  case list =>
    intro mayNegate s position tail hrest ih hs r hr
    rw [read_leftBracket _ hrest] at hr
    obtain ⟨hlt, hr⟩ := descend_eq_ok_iff.1 hr
    obtain ⟨items, hitems, hr⟩ := bind_eq_ok_iff.1 hr
    cases hr
    exact .list hrest (ih hlt hlt s.depth rfl items hitems)
  case parens =>
    intro mayNegate s position tail hrest ih hs r hr
    rw [read_leftParen _ hrest] at hr
    obtain ⟨hlt, hr⟩ := descend_eq_ok_iff.1 hr
    obtain ⟨content, hcontent, hr⟩ := bind_eq_ok_iff.1 hr
    split at hr
    · rename_i hclose
      cases hr
      exact (ih hlt hlt content hcontent).parens hrest hclose
    · cases hr
  case unopened =>
    intro mayNegate s hleaf hbracket hparen hs r hr
    rw [read_unopened _ hleaf hbracket hparen] at hr
    cases hr
  case close =>
    intro s position tail hrest hs d hd r hr
    rw [readItems_close hrest] at hr
    cases hr
    exact .empty hrest hd hs
  case items =>
    intro s hrest ih hs d hd r hr
    rw [readItems_open hrest] at hr
    exact (ih hs r hr).list hd
  case item =>
    intro s ihItem ihMore hs r hr
    rw [readMoreItems_eq] at hr
    obtain ⟨item, hitem, hr⟩ := bind_eq_ok_iff.1 hr
    have yItem := ihItem hs item hitem
    split at hr
    · rename_i hclose
      cases hr
      exact .one yItem hclose
    · rename_i hcomma
      obtain ⟨more, hmore, hr⟩ := bind_eq_ok_iff.1 hr
      cases hr
      exact .more yItem hcomma (ihMore item hcomma (by simp [yItem.depth, hs]) more hmore)
    · cases hr
  case stop =>
    intro c base left s hop hs r hr
    rw [readChain_stop hop] at hr
    cases hr
    exact ⟨rfl, s.depth, hs, .stop⟩
  case operand =>
    intro c base left s op n hop ihRight ihMore hs r hr
    rw [readChain_operator hop] at hr
    obtain ⟨hlt, hr⟩ := descend_eq_ok_iff.1 hr
    obtain ⟨right, hright, hr⟩ := bind_eq_ok_iff.1 hr
    obtain ⟨more, hmore, hr⟩ := bind_eq_ok_iff.1 hr
    cases hr
    have yRight := ihRight hlt hlt right hright
    have yMore := ihMore hlt right (by rw [after_depth, yRight.depth]; exact hlt) more hmore
    exact .more hop yRight yMore

theorem read_sound {level : Level} {mayNegate : Bool} {s : Cursor} (hs : s.depth ≤ maxDepth)
    {r : Parsed Expr} (h : s.read level mayNegate = .ok r) : Yields level s r :=
  read_sound_all.1 level mayNegate s hs r h

theorem readExpression_sound {s : Cursor} (hs : s.depth ≤ maxDepth) {r : Parsed Expr}
    (h : s.readExpression = .ok r) : Yields (.chain .disjunction) s r :=
  read_sound hs h

end EventRouting.Cursor
