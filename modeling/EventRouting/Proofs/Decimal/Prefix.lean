import EventRouting.Proofs.Decimal.Scanning

set_option autoImplicit false

namespace EventRouting

namespace Text

theorem takeWhile_append_of_stop {f : Char → Bool} {rest : List Char}
    (hrest : ∀ c ∈ rest.head?, f c = false) (cs : List Char) :
    (cs ++ rest).takeWhile f = cs.takeWhile f ∧
      (cs ++ rest).dropWhile f = cs.dropWhile f ++ rest := by
  induction cs with
  | nil =>
    cases rest with
    | nil => exact ⟨rfl, rfl⟩
    | cons c rest => simp [hrest c rfl]
  | cons c cs ih =>
    by_cases hc : f c = true
    · simp [hc, ih.1, ih.2]
    · simp [hc]

end Text

namespace Decimal

theorem scanFraction_eq_some {cs ds : List Char} (h : scanFraction cs = some ds) :
    ∃ more, cs = '.' :: (ds ++ more) := by
  unfold scanFraction at h
  split at h
  · rename_i rest
    simp only at h
    split at h
    · cases h
    · cases h
      exact ⟨rest.dropWhile Text.isDigit, by rw [List.takeWhile_append_dropWhile]⟩
  · cases h

section

variable {rest : List Char} (hrest : Literal.Ends rest)

include hrest

theorem Exponent.scan_append (hsign : ∀ c ∈ rest.head?, c ≠ '+' ∧ c ≠ '-') (cs : List Char) :
    Exponent.scan (cs ++ rest) = Exponent.scan cs := by
  have hdigits := Text.takeWhile_append_of_stop fun c hc => (hrest c hc).1
  match cs with
  | [] => exact Exponent.scan_eq_none hrest
  | [mark] =>
    cases rest with
    | nil => rfl
    | cons c rest =>
      have hc := hsign c rfl
      have hdigit := (hrest c rfl).1
      simp [scan, hc, hdigit]
  | mark :: c :: cs =>
    have hcs := (hdigits cs).1
    have hccs := (hdigits (c :: cs)).1
    simp only [List.cons_append] at hccs
    simp only [List.cons_append, scan]
    by_cases hplus : c = '+'
    · simp [hplus, hcs]
    · by_cases hminus : c = '-'
      · simp [hminus, hcs]
      · simp [hplus, hminus, hccs]

theorem scanFraction_append_of_ends (cs : List Char) :
    scanFraction (cs ++ rest) = scanFraction cs := by
  cases cs with
  | nil => exact scanFraction_eq_none fun c hc => (hrest c hc).2.1
  | cons c cs =>
    by_cases hpoint : c = '.'
    · have hdigits := (Text.takeWhile_append_of_stop (fun c hc => (hrest c hc).1) cs).1
      simp [scanFraction, hpoint, hdigits]
    · simp [scanFraction, hpoint]

theorem Literal.scanUnsigned_append (hsign : ∀ c ∈ rest.head?, c ≠ '+' ∧ c ≠ '-')
    (negative : Bool) (cs : List Char) :
    scanUnsigned negative (cs ++ rest) = scanUnsigned negative cs := by
  obtain ⟨htake, hdrop⟩ := Text.takeWhile_append_of_stop (fun c hc => (hrest c hc).1) cs
  simp only [scanUnsigned, htake, hdrop, scanFraction_append_of_ends hrest]
  generalize cs.dropWhile Text.isDigit = behind
  cases hfraction : scanFraction behind with
  | none => simp only [Exponent.scan_append hrest hsign]
  | some digits =>
    obtain ⟨more, rfl⟩ := scanFraction_eq_some hfraction
    have hlength : digits.length + 1 ≤ ('.' :: (digits ++ more)).length := by
      simp
    simp only [List.drop_append_of_le_length hlength, Exponent.scan_append hrest hsign]

/-- A literal that a text begins with is the same before anything that goes on with none. -/
theorem Literal.scan_append (hsign : ∀ c ∈ rest.head?, c ≠ '+' ∧ c ≠ '-') (cs : List Char) :
    scan (cs ++ rest) = scan cs := by
  cases cs with
  | nil =>
    cases rest with
    | nil => rfl
    | cons c rest =>
      have hminus := (hsign c rfl).2
      have hdigit := (hrest c rfl).1
      simp [scan, hminus, scanUnsigned, hdigit]
  | cons c cs =>
    by_cases hminus : c = '-'
    · rw [hminus]
      exact scanUnsigned_append hrest hsign true cs
    · have h := scanUnsigned_append hrest hsign false (c :: cs)
      simpa [scan, hminus] using h

end

theorem Exponent.text_front {cs : List Char} {e : Exponent} (h : Exponent.scan cs = some e) :
    e.text <+: cs := by
  match cs with
  | [] => cases h
  | [mark] => simp [scan] at h
  | mark :: c :: cs =>
    simp only [scan, Option.ite_none_right_eq_some, Option.ite_none_left_eq_some,
      Option.some.injEq] at h
    obtain ⟨-, -, rfl⟩ := h
    by_cases hplus : c = '+'
    · exact ⟨cs.dropWhile Text.isDigit, by simp [text, hplus]⟩
    · by_cases hminus : c = '-'
      · exact ⟨cs.dropWhile Text.isDigit, by simp [text, hminus]⟩
      · exact ⟨(c :: cs).dropWhile Text.isDigit, by simp [text, hplus, hminus]⟩

namespace Literal

theorem fractionText_front {l : Literal} {cs : List Char} (h : scanFraction cs = l.fraction) :
    l.fractionText <+: cs := by
  unfold fractionText
  cases hfraction : l.fraction with
  | none => exact List.nil_prefix
  | some digits =>
    obtain ⟨more, rfl⟩ := scanFraction_eq_some (h.trans hfraction)
    exact ⟨more, rfl⟩

theorem exponentText_front {l : Literal} {cs : List Char} (h : Exponent.scan cs = l.exponent) :
    l.exponentText <+: cs := by
  unfold exponentText
  cases hexponent : l.exponent with
  | none => exact List.nil_prefix
  | some e => exact Exponent.text_front (h.trans hexponent)

theorem scanUnsigned_eq_some {negative : Bool} {cs : List Char} {l : Literal}
    (h : scanUnsigned negative cs = some l) :
    l.negative = negative ∧ l.whole ≠ [] ∧ cs.takeWhile Text.isDigit = l.whole ∧
      ∃ more, cs = l.whole ++ (l.fractionText ++ more) ∧
        scanFraction (l.fractionText ++ more) = l.fraction ∧ Exponent.scan more = l.exponent := by
  have hwhole := whole_ne_nil_of_scanUnsigned h
  simp only [scanUnsigned, Option.ite_none_left_eq_some, Option.some.injEq] at h
  obtain ⟨-, hl⟩ := h
  have htake : cs.takeWhile Text.isDigit = l.whole := congrArg Literal.whole hl
  have hsplit : l.whole ++ cs.dropWhile Text.isDigit = cs := by
    rw [← htake]
    exact List.takeWhile_append_dropWhile
  have hfraction : scanFraction (cs.dropWhile Text.isDigit) = l.fraction :=
    congrArg Literal.fraction hl
  generalize cs.dropWhile Text.isDigit = behind at hl hsplit hfraction
  have hexponent : Exponent.scan (behind.drop l.fractionText.length) = l.exponent := by
    rw [← hl, fractionText]
    cases scanFraction behind <;> rfl
  have hbehind := List.prefix_iff_eq_append.1 (fractionText_front hfraction)
  refine ⟨(congrArg Literal.negative hl).symm, hwhole, htake, _, ?_, ?_, hexponent⟩
  · rw [hbehind, hsplit]
  · rw [hbehind, hfraction]

theorem text_of_scanUnsigned {negative : Bool} {cs : List Char} {l : Literal}
    (h : scanUnsigned negative cs = some l) :
    l.negative = negative ∧ l.whole ++ (l.fractionText ++ l.exponentText) <+: cs := by
  obtain ⟨hnegative, -, -, more, rfl, -, hexponent⟩ := scanUnsigned_eq_some h
  refine ⟨hnegative, ?_⟩
  exact (List.prefix_append_right_inj _).2
    ((List.prefix_append_right_inj _).2 (exponentText_front hexponent))

theorem text_front {cs : List Char} {l : Literal} (h : scan cs = some l) :
    l.text <+: cs := by
  unfold scan at h
  split at h
  · obtain ⟨hnegative, htext⟩ := text_of_scanUnsigned h
    simpa [text, hnegative] using htext
  · obtain ⟨hnegative, htext⟩ := text_of_scanUnsigned h
    simpa [text, hnegative] using htext

end Literal
end Decimal
end EventRouting
