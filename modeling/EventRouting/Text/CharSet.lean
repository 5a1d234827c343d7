set_option autoImplicit false

namespace EventRouting

/-- The characters whose code point lies in one of the intervals. -/
structure CharSet where
  intervals : List (Nat × Nat)
deriving Repr, DecidableEq, Inhabited

namespace CharSet

def contains (s : CharSet) (c : Char) : Bool :=
  s.intervals.any fun (first, last) => first ≤ c.toNat && c.toNat ≤ last

def empty : CharSet := ⟨[]⟩

def singleton (c : Char) : CharSet := ⟨[(c.toNat, c.toNat)]⟩

def interval (first last : Char) : CharSet := ⟨[(first.toNat, last.toNat)]⟩

def ofList (cs : List Char) : CharSet := ⟨cs.map fun c => (c.toNat, c.toNat)⟩

def maxCodePoint : Nat := 0x10FFFF

def full : CharSet := ⟨[(0, maxCodePoint)]⟩

/-- The code points from `start` on that no interval covers; the intervals begin in
ascending order. -/
def gaps (start : Nat) : List (Nat × Nat) → List (Nat × Nat)
  | [] => [(start, maxCodePoint)]
  | (first, last) :: rest =>
    if start < first then (start, first - 1) :: gaps (max start (last + 1)) rest
    else gaps (max start (last + 1)) rest

def complement (s : CharSet) : CharSet :=
  ⟨gaps 0 (s.intervals.mergeSort fun a b => a.1 ≤ b.1)⟩

def union (s t : CharSet) : CharSet := ⟨s.intervals ++ t.intervals⟩

def inter (s t : CharSet) : CharSet := (s.complement.union t.complement).complement

def diff (s t : CharSet) : CharSet := s.inter t.complement

def symmDiff (s t : CharSet) : CharSet := (s.diff t).union (t.diff s)

theorem contains_eq_true_iff {s : CharSet} {c : Char} :
    s.contains c = true ↔ ∃ i ∈ s.intervals, i.1 ≤ c.toNat ∧ c.toNat ≤ i.2 := by
  simp [contains, List.any_eq_true]

theorem toNat_le_maxCodePoint (c : Char) : c.toNat ≤ maxCodePoint := by
  have := c.valid
  unfold maxCodePoint
  rcases this with h | h
  · have : c.toNat < 0xD800 := h
    omega
  · have : c.toNat < 0x110000 := h.2
    omega

theorem mem_gaps_iff (c : Char) (start : Nat) (intervals : List (Nat × Nat))
    (h : intervals.Pairwise fun a b => a.1 ≤ b.1) :
    (∃ i ∈ gaps start intervals, i.1 ≤ c.toNat ∧ c.toNat ≤ i.2) ↔
      start ≤ c.toNat ∧ ∀ i ∈ intervals, ¬(i.1 ≤ c.toNat ∧ c.toNat ≤ i.2) := by
  induction intervals generalizing start with
  | nil =>
    have := toNat_le_maxCodePoint c
    simp [gaps, this]
  | cons i rest ih =>
    obtain ⟨first, last⟩ := i
    obtain ⟨hfirst, hrest⟩ := List.pairwise_cons.1 h
    have tail := ih (max start (last + 1)) hrest
    have before : c.toNat < first → ∀ i ∈ rest, ¬(i.1 ≤ c.toNat ∧ c.toNat ≤ i.2) := by
      intro hc i hi hin
      have := hfirst i hi
      simp only at this
      omega
    unfold gaps
    split
    · simp only [List.mem_cons, exists_eq_or_imp, forall_eq_or_imp, tail]
      constructor
      · rintro (⟨hs, hl⟩ | ⟨hs, hnone⟩)
        · exact ⟨hs, by omega, before (by omega)⟩
        · exact ⟨by omega, by omega, hnone⟩
      · rintro ⟨hs, hnot, hnone⟩
        by_cases hc : c.toNat < first
        · exact .inl ⟨hs, by omega⟩
        · exact .inr ⟨by omega, hnone⟩
    · rw [tail]
      simp only [List.mem_cons, forall_eq_or_imp]
      constructor
      · rintro ⟨hs, hnone⟩
        exact ⟨by omega, by omega, hnone⟩
      · rintro ⟨hs, hnot, hnone⟩
        exact ⟨by omega, hnone⟩

theorem contains_complement (s : CharSet) (c : Char) :
    s.complement.contains c = !s.contains c := by
  have sorted : (s.intervals.mergeSort fun a b => a.1 ≤ b.1).Pairwise fun a b => a.1 ≤ b.1 := by
    have := @List.pairwise_mergeSort _ (fun a b : Nat × Nat => decide (a.1 ≤ b.1))
      (by simp; omega) (by simp; omega) s.intervals
    simpa using this
  rw [Bool.eq_iff_iff, contains_eq_true_iff, Bool.not_eq_true', ← Bool.not_eq_true,
    contains_eq_true_iff]
  unfold complement
  rw [mem_gaps_iff c 0 _ sorted]
  simp [List.mem_mergeSort]

theorem contains_union (s t : CharSet) (c : Char) :
    (s.union t).contains c = (s.contains c || t.contains c) := by
  simp [contains, union]

theorem contains_inter (s t : CharSet) (c : Char) :
    (s.inter t).contains c = (s.contains c && t.contains c) := by
  simp [inter, contains_complement, contains_union]

theorem contains_diff (s t : CharSet) (c : Char) :
    (s.diff t).contains c = (s.contains c && !t.contains c) := by
  simp [diff, contains_inter, contains_complement]

theorem contains_symmDiff (s t : CharSet) (c : Char) :
    (s.symmDiff t).contains c = (s.contains c ^^ t.contains c) := by
  rw [symmDiff, contains_union, contains_diff, contains_diff]
  cases s.contains c <;> cases t.contains c <;> rfl

end CharSet
end EventRouting
