import EventRouting.Proofs.Statement.Readers

set_option autoImplicit false

namespace EventRouting.Cursor

open Fallible

theorem length_after {α : Type} (s : Cursor) (r : Parsed α) :
    (s.after r).rest.length = s.rest.length - r.taken :=
  List.length_drop

theorem length_inner (s : Cursor) (k : Nat) :
    (s.skip k).deeper.rest.length = s.rest.length - k :=
  List.length_drop

theorem length_pos_of_rest {s : Cursor} {t : Token} {position : Position} {tail : List Placed}
    (hrest : s.rest = ⟨t, position⟩ :: tail) : 0 < s.rest.length := by
  rw [hrest]
  exact Nat.succ_pos _

/-- An answer to reading at `s`: it takes tokens that are there, and gives back the levels that
were taken on the way. -/
structure Advances {α : Type} (s : Cursor) (r : Parsed α) : Prop where
  depth : r.depth = s.depth
  taken_pos : 0 < r.taken
  taken_le : r.taken ≤ s.rest.length

/-- The same for the further operands of a chain at depth `base`, of which there may be none. -/
structure Trails (s : Cursor) (base : Nat) (r : Parsed Expr) : Prop where
  depth : r.depth = base
  taken_le : r.taken ≤ s.rest.length

variable {s : Cursor}

theorem Advances.trailed {first all : Parsed Expr} (h : s.Advances first)
    (hall : (s.after first).Trails s.depth all) :
    s.Advances ⟨all.value, first.taken + all.taken, all.depth⟩ := by
  have hbehind := hall.taken_le
  have htaken := h.taken_le
  rw [length_after] at hbehind
  exact ⟨hall.depth, Nat.add_pos_left h.taken_pos _, show first.taken + all.taken ≤ _ by omega⟩

theorem Advances.nested {α : Type} {inner : Parsed α} {e : Expr} {more : Nat}
    (h : (s.skip 1).deeper.Advances inner) (htaken : inner.taken + more ≤ s.rest.length) :
    s.Advances ⟨e, inner.taken + more, inner.depth - 1⟩ := by
  refine ⟨?_, Nat.add_pos_left h.taken_pos _, htaken⟩
  show inner.depth - 1 = s.depth
  rw [h.depth]
  rfl

theorem Advances.enclosed {α : Type} {inner : Parsed α} {e : Expr} {t : Token}
    {position : Position} {tail : List Placed} (hrest : s.rest = ⟨t, position⟩ :: tail)
    (h : (s.skip 1).deeper.Advances inner) : s.Advances ⟨e, inner.taken + 1, inner.depth - 1⟩ := by
  have htaken := h.taken_le
  have hpos := length_pos_of_rest hrest
  rw [length_inner] at htaken
  exact h.nested (by omega)

theorem Trails.operand {base n : Nat} {right all : Parsed Expr} (hn : n ≤ s.rest.length)
    (h : (s.skip n).deeper.Advances right)
    (hall : ((s.skip n).deeper.after right).Trails base all) :
    s.Trails base ⟨all.value, n + right.taken + all.taken, all.depth⟩ := by
  have hbehind := hall.taken_le
  have htaken := h.taken_le
  rw [length_inner] at htaken
  rw [length_after, length_inner] at hbehind
  exact ⟨hall.depth, show n + right.taken + all.taken ≤ _ by omega⟩

theorem advances_all :
    (∀ (level : Level) (m : Bool) (s : Cursor) (r : Parsed Expr),
      s.read level m = .ok r → s.Advances r) ∧
    (∀ (s : Cursor) (r : Parsed (List Expr)), s.readItems = .ok r → s.Advances r) ∧
    (∀ (s : Cursor) (r : Parsed (List Expr)), s.readMoreItems = .ok r → s.Advances r) ∧
    ∀ (c : Chain) (base : Nat) (left : Expr) (s : Cursor) (r : Parsed Expr),
      s.readChain c base left = .ok r → s.Trails base r := by
  apply readers_induct
    (fun level m s => ∀ r, s.read level m = .ok r → s.Advances r)
    (fun s => ∀ r, s.readItems = .ok r → s.Advances r)
    (fun s => ∀ r, s.readMoreItems = .ok r → s.Advances r)
    (fun c base left s => ∀ r, s.readChain c base left = .ok r → s.Trails base r)
  case chain =>
    intro m s c ihFirst ihMore r hr
    rw [read_chain] at hr
    obtain ⟨first, hfirst, hr⟩ := bind_eq_ok_iff.1 hr
    obtain ⟨all, hall, ⟨⟩⟩ := bind_eq_ok_iff.1 hr
    exact (ihFirst first hfirst).trailed (ihMore first all hall)
  case negation =>
    intro m s position tail hrest ih r hr
    rw [read_not _ hrest] at hr
    obtain ⟨hlt, hr⟩ := descend_eq_ok_iff.1 hr
    obtain ⟨operand, hoperand, ⟨⟩⟩ := bind_eq_ok_iff.1 hr
    exact .enclosed hrest (ih hlt operand hoperand)
  case plain =>
    intro m s hrest ih r hr
    rw [read_plain _ hrest] at hr
    exact ih r hr
  case leaf =>
    intro m s leaf hleaf r hr
    obtain ⟨position, tail, hrest⟩ := rest_of_leaf hleaf
    rw [read_leaf _ hleaf] at hr
    cases hr
    exact ⟨rfl, Nat.one_pos, length_pos_of_rest hrest⟩
  case list =>
    intro m s position tail hrest ih r hr
    rw [read_leftBracket _ hrest] at hr
    obtain ⟨hlt, hr⟩ := descend_eq_ok_iff.1 hr
    obtain ⟨items, hitems, ⟨⟩⟩ := bind_eq_ok_iff.1 hr
    exact .enclosed hrest (ih hlt items hitems)
  case parens =>
    intro m s position tail hrest ih r hr
    rw [read_leftParen _ hrest] at hr
    obtain ⟨hlt, hr⟩ := descend_eq_ok_iff.1 hr
    obtain ⟨content, hcontent, hr⟩ := bind_eq_ok_iff.1 hr
    split at hr
    · rename_i hclose
      cases hr
      obtain ⟨_, _, hmore⟩ := token_eq hclose (by simp)
      have hbehind := length_pos_of_rest hmore
      rw [length_after, length_inner] at hbehind
      exact .nested (ih hlt content hcontent) (by omega)
    · cases hr
  case unopened =>
    intro m s hleaf hbracket hparen r hr
    rw [read_unopened _ hleaf hbracket hparen] at hr
    cases hr
  case close =>
    intro s position tail hrest r hr
    rw [readItems_close hrest] at hr
    cases hr
    exact ⟨rfl, Nat.one_pos, length_pos_of_rest hrest⟩
  case items =>
    intro s hrest ih r hr
    rw [readItems_open hrest] at hr
    exact ih r hr
  case item =>
    intro s ihItem ihMore r hr
    rw [readMoreItems_eq] at hr
    obtain ⟨item, hitem, hr⟩ := bind_eq_ok_iff.1 hr
    obtain ⟨hdepth, -, -⟩ := ihItem item hitem
    have hafter := s.length_after item
    split at hr
    · rename_i hclose
      cases hr
      obtain ⟨_, _, hbehind⟩ := token_eq hclose (by simp)
      have hpos := length_pos_of_rest hbehind
      exact ⟨hdepth, Nat.succ_pos _, show item.taken + 1 ≤ _ by omega⟩
    · rename_i hcomma
      obtain ⟨_, _, hbehind⟩ := token_eq hcomma (by simp)
      have hpos := length_pos_of_rest hbehind
      obtain ⟨more, hmore, ⟨⟩⟩ := bind_eq_ok_iff.1 hr
      obtain ⟨hdepth', -, htaken⟩ := ihMore item hcomma more hmore
      have hskip : ((s.after item).skip 1).rest.length = (s.after item).rest.length - 1 :=
        List.length_drop
      refine ⟨hdepth'.trans hdepth, ?_, show item.taken + 1 + more.taken ≤ _ by omega⟩
      exact Nat.add_pos_left (Nat.succ_pos _) _
    · cases hr
  case stop =>
    intro c base left s hop r hr
    rw [readChain_stop hop] at hr
    cases hr
    exact ⟨rfl, Nat.zero_le _⟩
  case operand =>
    intro c base left s op n hop ihRight ihMore r hr
    rw [readChain_operator hop] at hr
    obtain ⟨hlt, hr⟩ := descend_eq_ok_iff.1 hr
    obtain ⟨right, hright, hr⟩ := bind_eq_ok_iff.1 hr
    obtain ⟨all, hall, ⟨⟩⟩ := bind_eq_ok_iff.1 hr
    exact .operand (Chain.operator?_length hop).2 (ihRight hlt right hright)
      (ihMore hlt right all hall)

/-- For any cursor: an answer stands at the depth at which its reader began, behind one token at
least and no further than the tokens go. -/
theorem read_advances {level : Level} {m : Bool} {r : Parsed Expr} (h : s.read level m = .ok r) :
    s.Advances r :=
  advances_all.1 level m s r h

theorem readItems_advances {r : Parsed (List Expr)} (h : s.readItems = .ok r) : s.Advances r :=
  advances_all.2.1 s r h

end EventRouting.Cursor
