import EventRouting.Decimal.Layout
import EventRouting.Proofs.Decimal.Rounding
import EventRouting.Proofs.Decimal.Scanning

set_option autoImplicit false

namespace EventRouting

namespace Magnitude

def scale (power : Int) : Nat := 10 ^ (-power).toNat

def step (power : Int) : Nat := 2 ^ 1076 * 10 ^ power.toNat

/-- A magnitude in quarters of a unit times `scale`. -/
def quarters (m : Magnitude) (power : Int) : Nat := 4 * m.units * scale power

def Near (m : Magnitude) (power : Int) (distance gap : Nat) : Prop :=
  distance < gap * scale power ∨ distance = gap * scale power ∧ m.significand % 2 = 0

theorem multiple?_near {tie : Tie} {m : Magnitude} {power : Int} {k : Nat}
    (h : m.multiple? tie power = some k) :
    k = m.quarters power / step power ∧
        m.Near power (m.quarters power % step power) m.halfGapBelow ∨
      k = m.quarters power / step power + 1 ∧
        m.Near power (step power - m.quarters power % step power) m.halfGapAbove := by
  have hnear (distance gap : Nat) :
      (decide (distance < gap * scale power) ||
        decide (distance = gap * scale power) && decide (m.significand % 2 = 0)) = true →
      m.Near power distance gap := by
    simp [Near]
  have hscale : 10 ^ (-power).toNat = scale power := rfl
  have hstep : 2 ^ 1076 * 10 ^ power.toNat = step power := by rw [step]
  have hquarters : 4 * m.units * scale power = m.quarters power := rfl
  simp only [multiple?, hscale, hstep, hquarters] at h
  split at h
  · cases h
  · rename_i hbelow _
    exact .inl ⟨(Option.some.inj h).symm, hnear _ _ hbelow⟩
  · rename_i _ habove
    exact .inr ⟨(Option.some.inj h).symm, hnear _ _ habove⟩
  · rename_i hbelow habove
    split at h
    · exact .inl ⟨(Option.some.inj h).symm, hnear _ _ hbelow⟩
    · split at h
      · exact .inr ⟨(Option.some.inj h).symm, hnear _ _ habove⟩
      · split at h
        · exact .inl ⟨(Option.some.inj h).symm, hnear _ _ hbelow⟩
        · exact .inr ⟨(Option.some.inj h).symm, hnear _ _ habove⟩

theorem scale_pos (power : Int) : 0 < scale power := Nat.pow_pos (by decide)

theorem step_pos (power : Int) : 0 < step power := by
  rw [step]
  apply Nat.mul_pos
  · exact Nat.two_pow_pos 1076
  · exact Nat.pow_pos (by decide)

theorem mul_step (k : Nat) (power : Int) :
    k * step power = 4 * (k * 10 ^ power.toNat) * 2 ^ 1074 := by
  rw [step, show 1076 = 2 + 1074 from rfl, Nat.pow_add 2 2 1074]
  generalize 2 ^ 1074 = unit
  generalize 10 ^ power.toNat = ten
  show k * (4 * unit * ten) = 4 * (k * ten) * unit
  ac_rfl

theorem ReadsBack.of_eq {m : Magnitude} {num den : Nat} (hden : 0 < den)
    (h : num * 2 ^ 1074 = m.units * den) : m.ReadsBack num den := by
  have hvalue : 4 * num * 2 ^ 1074 = 4 * m.units * den := by
    rw [Nat.mul_assoc, h, Nat.mul_assoc]
  have hbelow := Nat.mul_pos m.halfGapBelow_pos hden
  have habove := Nat.mul_pos m.halfGapAbove_pos hden
  refine ⟨hden, ?_, ?_, ?_⟩ <;> rw [hvalue] <;> omega

theorem multiple?_readsBack {tie : Tie} {m : Magnitude} {power : Int} {k : Nat}
    (h : m.multiple? tie power = some k) :
    m.ReadsBack (k * 10 ^ power.toNat) (scale power) := by
  have hbelow := Nat.mul_pos m.halfGapBelow_pos (scale_pos power)
  have habove := Nat.mul_pos m.halfGapAbove_pos (scale_pos power)
  have hdiv := Nat.div_add_mod' (m.quarters power) (step power)
  have hmod := Nat.mod_lt (m.quarters power) (step_pos power)
  suffices hbounds : m.quarters power ≤ k * step power + m.halfGapBelow * scale power ∧
      k * step power ≤ m.quarters power + m.halfGapAbove * scale power ∧
      (m.quarters power = k * step power + m.halfGapBelow * scale power ∨
        k * step power = m.quarters power + m.halfGapAbove * scale power →
        m.significand % 2 = 0) by
    rw [mul_step] at hbounds
    exact ⟨scale_pos power, hbounds.1, hbounds.2.1, hbounds.2.2⟩
  rcases multiple?_near h with ⟨rfl, hnear⟩ | ⟨rfl, hnear⟩
  · unfold Near at hnear
    generalize m.quarters power / step power * step power = x at *
    omega
  · unfold Near at hnear
    rw [Nat.add_mul, Nat.one_mul]
    generalize m.quarters power / step power * step power = x at *
    omega

/-- The shortest decimal of a magnitude rounds to it. -/
theorem shortest_readsBack (tie : Tie) (m : Magnitude) :
    m.ReadsBack ((m.shortest tie).1 * 10 ^ (m.shortest tie).2.toNat)
      (scale (m.shortest tie).2) := by
  unfold shortest
  cases hfound : (List.range 24).findSome? fun (i : Nat) =>
      (m.multiple? tie (m.powerAbove - (i : Int))).map (·, m.powerAbove - (i : Int)) with
  | some decimal =>
    obtain ⟨i, -, hi⟩ := List.exists_of_findSome?_eq_some hfound
    obtain ⟨k, hk, rfl⟩ := Option.map_eq_some_iff.1 hi
    simp only [Option.getD_some]
    exact multiple?_readsBack hk
  | none =>
    simp only [Option.getD_none]
    have hten : scale (-1074) = (5 * 2) ^ 1074 := by
      unfold scale
      congr 1
    have hone : 10 ^ Int.toNat (-1074) = 1 := rfl
    apply ReadsBack.of_eq (scale_pos _)
    rw [hone, hten, Nat.mul_one, Nat.mul_pow 5 2 1074, Nat.mul_assoc m.units]

theorem ReadsBack.shift {m : Magnitude} {coefficient : Nat} {power : Int}
    (h : m.ReadsBack (coefficient * 10 ^ power.toNat) (scale power)) (k : Nat) :
    m.ReadsBack (10 ^ k * coefficient * 10 ^ (power - k).toNat) (scale (power - k)) := by
  obtain ⟨j, hden, hnum⟩ : ∃ j, (-(power - k)).toNat = (-power).toNat + j ∧
      k + (power - k).toNat = power.toNat + j :=
    ⟨(-(power - k)).toNat - (-power).toNat, by omega, by omega⟩
  have hscaled := h.mul_right (k := 10 ^ j) (Nat.pow_pos (by decide))
  have hnum : 10 ^ k * coefficient * 10 ^ (power - k).toNat =
      coefficient * 10 ^ power.toNat * 10 ^ j := by
    rw [Nat.mul_comm (10 ^ k), Nat.mul_assoc, ← Nat.pow_add, hnum, Nat.pow_add, Nat.mul_assoc]
  rw [hnum, Magnitude.scale, hden, Nat.pow_add]
  exact hscaled

end Magnitude

namespace Decimal

namespace Literal

def coefficient (l : Literal) : Nat := Text.natOfDigits (l.whole ++ l.fraction.getD [])

def power (l : Literal) : Int :=
  (match l.exponent with
    | some e => e.value
    | none => 0) - (l.fraction.getD []).length

/-- A literal that is no integer writes a decimal as `text`, perhaps with more digits. -/
structure Writes (l : Literal) (negative : Bool) (text : List Char) (coefficient : Nat)
    (power : Int) : Prop where
  wellFormed : l.WellFormed
  negative_eq : l.negative = negative
  not_integer : l.isInteger = false
  text_eq : l.text = (if negative then ['-'] else []) ++ text
  value : ∃ k : Nat, l.coefficient = 10 ^ k * coefficient ∧ l.power = power - k

theorem Writes.toBinary64_eq {l : Literal} {negative : Bool} {text : List Char}
    {coefficient : Nat} {power : Int} {m : Magnitude}
    (h : l.Writes negative text coefficient power)
    (hm : m.ReadsBack (coefficient * 10 ^ power.toNat) (Magnitude.scale power)) :
    l.toBinary64 = .finite negative m := by
  obtain ⟨k, hcoefficient, hpower⟩ := h.value
  have hround := Magnitude.ofDecimal?_eq (hm.shift k)
  rw [← hcoefficient, ← hpower] at hround
  show Binary64.ofDecimal l.negative l.coefficient l.power = _
  rw [Binary64.ofDecimal, hround, h.negative_eq]

end Literal

namespace Exponent

def ofInt (plusSign : Bool) (n : Int) : Exponent :=
  ⟨'e', if n < 0 then some '-' else if plusSign then some '+' else none, Nat.toDigits 10 n.natAbs⟩

theorem ofInt_wellFormed (plusSign : Bool) (n : Int) : (ofInt plusSign n).WellFormed := by
  refine ⟨.inl rfl, ?_, Text.isDigits_toDigits _⟩
  unfold ofInt
  split
  · exact .inr (.inr rfl)
  · cases plusSign with
    | false => exact .inl rfl
    | true => exact .inr (.inl rfl)

theorem ofInt_value (plusSign : Bool) (n : Int) : (ofInt plusSign n).value = n := by
  simp only [value, ofInt, Text.natOfDigits_toDigits]
  by_cases hneg : n < 0
  · rw [if_pos hneg, if_pos rfl]
    omega
  · rw [if_neg hneg, if_neg (by cases plusSign <;> simp)]
    omega

theorem ofInt_text (plusSign : Bool) (n : Int) :
    (ofInt plusSign n).text =
      'e' :: (if n < 0 then ['-'] else if plusSign then ['+'] else []) ++
        Nat.toDigits 10 n.natAbs := by
  unfold text ofInt
  split
  · rfl
  · cases plusSign <;> rfl

end Exponent

section

variable {digits : List Char} (h : Text.IsDigits digits) (negative : Bool)

include h

theorem fraction_literal (zeros : Nat) :
    ∃ l : Literal, l.Writes negative ('0' :: '.' :: List.replicate zeros '0' ++ digits)
      (Text.natOfDigits digits) (-(zeros + digits.length : Int)) := by
  refine ⟨⟨negative, ['0'], some (List.replicate zeros '0' ++ digits), none⟩,
    ⟨Text.isDigits_zeros 0, ?_, by simp⟩, rfl, rfl, ?_, 0, ?_, ?_⟩
  · rintro ds ⟨⟩
    exact h.zeros_append zeros
  · simp [Literal.text, Literal.fractionText, Literal.exponentText]
  · simp only [Literal.coefficient, Option.getD_some, Nat.pow_zero, Nat.one_mul]
    rw [show ['0'] = List.replicate 1 '0' from rfl, Text.natOfDigits_zeros_append,
      Text.natOfDigits_zeros_append]
  · simp only [Literal.power, Option.getD_some, List.length_append, List.length_replicate]
    omega

theorem whole_literal (zeros : Nat) :
    ∃ l : Literal, l.Writes negative (digits ++ List.replicate zeros '0' ++ ['.', '0'])
      (Text.natOfDigits digits) zeros := by
  refine ⟨⟨negative, digits ++ List.replicate zeros '0', some ['0'], none⟩,
    ⟨h.append_zeros zeros, ?_, by simp⟩, rfl, rfl, ?_, zeros + 1, ?_, ?_⟩
  · rintro ds ⟨⟩
    exact Text.isDigits_zeros 0
  · simp [Literal.text, Literal.fractionText, Literal.exponentText]
  · simp only [Literal.coefficient, Option.getD_some, List.append_assoc]
    rw [← List.replicate_succ', Text.natOfDigits_append_zeros]
  · simp only [Literal.power, Option.getD_some, List.length_cons, List.length_nil]
    omega

theorem split_literal {point : Nat} (hpos : 0 < point) (hlt : point < digits.length) :
    ∃ l : Literal, l.Writes negative (digits.take point ++ '.' :: digits.drop point)
      (Text.natOfDigits digits) (point - digits.length : Int) := by
  refine ⟨⟨negative, digits.take point, some (digits.drop point), none⟩,
    ⟨h.take hpos, ?_, by simp⟩, rfl, rfl, ?_, 0, ?_, ?_⟩
  · rintro ds ⟨⟩
    exact h.drop hlt
  · simp [Literal.text, Literal.fractionText, Literal.exponentText]
  · simp only [Literal.coefficient, Option.getD_some, List.take_append_drop, Nat.pow_zero,
      Nat.one_mul]
  · simp only [Literal.power, Option.getD_some, List.length_drop]
    omega

theorem withPoint_literal (point : Int) :
    ∃ l : Literal, l.Writes negative (withPoint digits point) (Text.natOfDigits digits)
      (point - digits.length) := by
  unfold withPoint
  by_cases hpoint : point ≤ 0
  · rw [if_pos hpoint]
    have hpower : point - digits.length = -((-point).toNat + digits.length : Int) := by omega
    rw [hpower]
    exact fraction_literal h negative (-point).toNat
  · rw [if_neg hpoint]
    by_cases hlength : digits.length ≤ point.toNat
    · rw [if_pos hlength]
      have hpower : point - digits.length = (point.toNat - digits.length : Nat) := by omega
      rw [hpower]
      exact whole_literal h negative _
    · rw [if_neg hlength]
      have hpower : point - digits.length = (point.toNat : Int) - digits.length := by omega
      rw [hpower]
      exact split_literal h negative (by omega) (by omega)

theorem withExponent_literal (plusSign : Bool) (exponent : Int) :
    ∃ l : Literal, l.Writes negative (withExponent plusSign digits exponent)
      (Text.natOfDigits digits) (exponent - (digits.length - 1)) := by
  have hlength := List.length_pos_iff.2 h.1
  have hvalue := Exponent.ofInt_value plusSign exponent
  have htext := Exponent.ofInt_text plusSign exponent
  by_cases hone : digits.length ≤ 1
  · refine ⟨⟨negative, digits.take 1, none, some (.ofInt plusSign exponent)⟩,
      ⟨⟨h.take Nat.one_pos, by simp, ?_⟩, rfl, rfl, ?_, 0, ?_, ?_⟩⟩
    · rintro _ ⟨⟩
      exact Exponent.ofInt_wellFormed plusSign exponent
    · simp [Literal.text, Literal.fractionText, Literal.exponentText, withExponent, hone, htext]
    · simp [Literal.coefficient, List.take_of_length_le hone]
    · simp only [Literal.power, hvalue, Option.getD_none, List.length_nil]
      omega
  · refine ⟨⟨negative, digits.take 1, some (digits.drop 1), some (.ofInt plusSign exponent)⟩,
      ⟨⟨h.take Nat.one_pos, ?_, ?_⟩, rfl, rfl, ?_, 0, ?_, ?_⟩⟩
    · rintro _ ⟨⟩
      exact h.drop (by omega)
    · rintro _ ⟨⟩
      exact Exponent.ofInt_wellFormed plusSign exponent
    · simp [Literal.text, Literal.fractionText, Literal.exponentText, withExponent, hone, htext]
    · simp only [Literal.coefficient, Option.getD_some, List.take_append_drop, Nat.pow_zero,
        Nat.one_mul]
    · simp only [Literal.power, hvalue, Option.getD_some, List.length_drop]
      omega

end

theorem Layout.magnitude_literal (layout : Layout) (negative : Bool) (m : Magnitude) :
    ∃ l : Literal, l.WellFormed ∧ l.isInteger = false ∧
      l.text = (if negative then ['-'] else []) ++ layout.magnitude m ∧
      l.toBinary64 = .finite negative m := by
  suffices hwrites : ∃ (l : Literal) (coefficient : Nat) (power : Int),
      l.Writes negative (layout.magnitude m) coefficient power ∧
      m.ReadsBack (coefficient * 10 ^ power.toNat) (Magnitude.scale power) by
    obtain ⟨l, coefficient, power, hl, hm⟩ := hwrites
    exact ⟨l, hl.wellFormed, hl.not_integer, hl.text_eq, hl.toBinary64_eq hm⟩
  unfold magnitude
  by_cases hzero : m.isZero = true
  · rw [if_pos hzero]
    obtain ⟨l, hl⟩ := whole_literal (Text.isDigits_zeros 0) negative 0
    refine ⟨l, _, _, hl, Magnitude.ReadsBack.of_eq (Magnitude.scale_pos _) ?_⟩
    have hs : m.significand = 0 := by simpa [Magnitude.isZero] using hzero
    simp only [Text.natOfDigits_zeros, Magnitude.units, hs, Nat.zero_mul]
  · rw [if_neg hzero]
    have hm := m.shortest_readsBack layout.tie
    generalize m.shortest layout.tie = decimal at *
    obtain ⟨coefficient, power⟩ := decimal
    have hdigits := Text.isDigits_toDigits coefficient
    have hcoefficient := Text.natOfDigits_toDigits coefficient
    simp only at hm ⊢
    split
    · obtain ⟨l, hl⟩ := withPoint_literal hdigits negative
        ((Nat.toDigits 10 coefficient).length + power)
      refine ⟨l, _, _, hl, ?_⟩
      have hpower : ((Nat.toDigits 10 coefficient).length + power -
          (Nat.toDigits 10 coefficient).length : Int) = power := by omega
      rwa [hcoefficient, hpower]
    · obtain ⟨l, hl⟩ := withExponent_literal hdigits negative layout.plusSign
        ((Nat.toDigits 10 coefficient).length + power - 1)
      refine ⟨l, _, _, hl, ?_⟩
      have hpower : ((Nat.toDigits 10 coefficient).length + power - 1 -
          ((Nat.toDigits 10 coefficient).length - 1) : Int) = power := by omega
      rwa [hcoefficient, hpower]

end Decimal

/-- The text of a finite number is that of a literal which stands for it and is no integer. -/
theorem Binary64.toText_literal {x : Binary64} (h : x.isFinite = true) :
    ∃ l : Decimal.Literal, l.WellFormed ∧ l.isInteger = false ∧ l.text = x.toText.toList ∧
      l.toBinary64 = x := by
  cases x with
  | nan => cases h
  | infinite negative => cases h
  | finite negative m =>
    obtain ⟨l, hl, hinteger, htext, hvalue⟩ :=
      Decimal.Layout.statement.magnitude_literal negative m
    refine ⟨l, hl, hinteger, ?_, hvalue⟩
    rw [htext, toText, Decimal.Layout.finite, String.toList_ofList]

end EventRouting
