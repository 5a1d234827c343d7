import EventRouting.Text.Lines

set_option autoImplicit false

namespace EventRouting.Text

/-- A line without the carriage return that may stand before its line feed. -/
def dropReturn (line : List Char) : List Char :=
  if line.getLast? = some '\r' then line.dropLast else line

theorem dropReturn_concat (line : List Char) : dropReturn (line ++ ['\r']) = line := by
  simp [dropReturn]

theorem dropReturn_cons (c d : Char) (line : List Char) :
    dropReturn (c :: d :: line) = c :: dropReturn (d :: line) := by
  unfold dropReturn
  rw [List.getLast?_cons_cons, List.dropLast_cons_cons]
  split <;> rfl

theorem splitLines_line {line : List Char} (h : '\n' ∉ line) (rest : List Char) :
    splitLines (line ++ '\n' :: rest) = dropReturn line :: splitLines rest := by
  induction line with
  | nil => simp [splitLines, dropReturn]
  | cons c line ih =>
    have hc := List.ne_of_not_mem_cons h
    have hline := List.not_mem_of_not_mem_cons h
    cases line with
    | nil =>
      by_cases hreturn : c = '\r'
      · simp [hreturn, splitLines, dropReturn]
      · simp [splitLines, dropReturn, hreturn, Ne.symm hc]
    | cons d line =>
      have hd : d ≠ '\n' := fun heq => hline (heq ▸ List.mem_cons_self)
      have hrest := ih hline
      rw [dropReturn_cons]
      simp only [List.cons_append] at hrest ⊢
      simp [splitLines, hrest, hd, Ne.symm hc]

theorem splitLines_last {line : List Char} (h : '\n' ∉ line) (hne : line ≠ []) :
    splitLines line = [line] := by
  induction line with
  | nil => exact absurd rfl hne
  | cons c line ih =>
    have hc := List.ne_of_not_mem_cons h
    have hline := List.not_mem_of_not_mem_cons h
    cases line with
    | nil => simp [splitLines, Ne.symm hc]
    | cons d line =>
      have hd : d ≠ '\n' := fun heq => hline (heq ▸ List.mem_cons_self)
      have hrest := ih hline (List.cons_ne_nil d line)
      simp [splitLines, hrest, hd, Ne.symm hc]

theorem line_cases (cs : List Char) :
    '\n' ∉ cs ∨ ∃ line rest, cs = line ++ '\n' :: rest ∧ '\n' ∉ line := by
  by_cases h : '\n' ∈ cs
  · obtain ⟨line, rest, hcs, hline⟩ := List.eq_append_cons_of_mem h
    exact .inr ⟨line, rest, hcs, hline⟩
  · exact .inl h

def lineAt (cs : List Char) (k : Nat) : List Char :=
  match (cs.splitOn '\n').drop k with
  | [] => []
  | [last] => last
  | line :: _ :: _ => dropReturn line

theorem splitOn_line {line : List Char} (h : '\n' ∉ line) (rest : List Char) :
    (line ++ '\n' :: rest).splitOn '\n' = line :: rest.splitOn '\n' :=
  List.splitOn_append_cons_self_of_not_mem h rest

theorem lineAt_line_zero {line : List Char} (h : '\n' ∉ line) (rest : List Char) :
    lineAt (line ++ '\n' :: rest) 0 = dropReturn line := by
  obtain ⟨next, more, hmore⟩ := List.exists_cons_of_ne_nil (List.splitOn_ne_nil '\n' rest)
  rw [lineAt, splitOn_line h, hmore]
  rfl

theorem lineAt_line_succ {line : List Char} (h : '\n' ∉ line) (rest : List Char) (k : Nat) :
    lineAt (line ++ '\n' :: rest) (k + 1) = lineAt rest k := by
  rw [lineAt, splitOn_line h, List.drop_succ_cons, lineAt]

theorem lineAt_last {line : List Char} (h : '\n' ∉ line) (k : Nat) :
    lineAt line k = if k = 0 then line else [] := by
  rw [lineAt, List.splitOn_eq_singleton h]
  cases k with
  | zero => rfl
  | succ k => simp

/-- The lines of a text are its pieces between line feeds, by their numbers. -/
theorem splitLines_getElem? (cs : List Char) (k : Nat) :
    (splitLines cs)[k]?.getD [] = lineAt cs k := by
  induction k generalizing cs with
  | zero =>
    rcases line_cases cs with h | ⟨line, rest, rfl, h⟩
    · rw [lineAt_last h, if_pos rfl]
      cases cs with
      | nil => rfl
      | cons c cs => rw [splitLines_last h (List.cons_ne_nil c cs)]; rfl
    · rw [splitLines_line h, lineAt_line_zero h]
      rfl
  | succ k ih =>
    rcases line_cases cs with h | ⟨line, rest, rfl, h⟩
    · rw [lineAt_last h, if_neg (Nat.succ_ne_zero k)]
      cases cs with
      | nil => rfl
      | cons c cs => rw [splitLines_last h (List.cons_ne_nil c cs)]; rfl
    · rw [splitLines_line h, lineAt_line_succ h, ← ih rest]
      rfl

theorem lineFeed_notMem_dropReturn {line : List Char} (h : '\n' ∉ line) :
    '\n' ∉ dropReturn line := by
  unfold dropReturn
  split
  · exact fun hmem => h (List.dropLast_subset line hmem)
  · exact h

theorem lineFeed_notMem_lineAt (cs : List Char) (k : Nat) : '\n' ∉ lineAt cs k := by
  induction k generalizing cs with
  | zero =>
    rcases line_cases cs with h | ⟨line, rest, rfl, h⟩
    · rwa [lineAt_last h, if_pos rfl]
    · rw [lineAt_line_zero h]
      exact lineFeed_notMem_dropReturn h
  | succ k ih =>
    rcases line_cases cs with h | ⟨line, rest, rfl, h⟩
    · rw [lineAt_last h, if_neg (Nat.succ_ne_zero k)]
      exact List.not_mem_nil
    · rw [lineAt_line_succ h]
      exact ih rest

end EventRouting.Text
