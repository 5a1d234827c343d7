import EventRouting.Proofs.Decimal.CorrectRounding

set_option autoImplicit false

namespace EventRouting

/-- A finite float is worth exactly this real. -/
def Binary64.Representable (v : ℝ) : Prop :=
  ∃ x : Binary64, x.isFinite = true ∧ x.toEReal = v

namespace Magnitude

theorem toReal_nonneg (m : Magnitude) : 0 ≤ m.toReal := by
  unfold toReal
  exact mul_nonneg (Nat.cast_nonneg _) (zpow_nonneg zero_le_two _)

theorem IsNearest.toReal_eq {m other : Magnitude} {v : ℝ} (h : m.IsNearest v)
    (hother : other.toReal = v) : m.toReal = v := by
  have hdistance := h.nearest other
  rw [hother, sub_self, abs_zero] at hdistance
  exact sub_eq_zero.1 (abs_eq_zero.1 (le_antisymm hdistance (abs_nonneg _)))

theorem toReal_eq_natCast_iff {m : Magnitude} {n : Nat} :
    m.toReal = n ↔ m.units = n * 2 ^ 1074 := by
  have hunit : (2 ^ 1074 : ℝ) ≠ 0 := by positivity
  rw [← Quantity.scaled_units, Quantity.scaled, div_eq_iff hunit, ← @Nat.cast_inj ℝ]
  simp only [Int.cast_natCast, Nat.cast_mul, Nat.cast_pow, Nat.cast_ofNat]

theorem abs_toInt_lt_overflow (n : Int64) : |(n.toInt : ℝ)| < overflow := by
  have hrange : |n.toInt| ≤ 2 ^ 63 := abs_le.2 ⟨n.le_toInt, n.toInt_lt.le⟩
  have hsmall : |(n.toInt : ℝ)| < 2 ^ 970 := by
    calc |(n.toInt : ℝ)| ≤ 2 ^ 63 := by exact_mod_cast hrange
      _ < 2 ^ 970 := pow_lt_pow_right₀ one_lt_two (by decide)
  refine lt_sub_iff_add_lt.2 ?_
  calc |(n.toInt : ℝ)| + 2 ^ 970 < 2 ^ 970 + 2 ^ 970 := add_lt_add_left hsmall _
    _ = 2 ^ 971 := (mul_two _).symm.trans (pow_succ 2 970).symm
    _ ≤ 2 ^ 1024 := pow_le_pow_right₀ one_le_two (by decide)

/-- A natural with at most 53 significant bits is a magnitude, unless it is too large. -/
theorem exists_units_eq {significand shift : Nat} (hsignificand : significand < 2 ^ 53)
    (hlt : significand * 2 ^ shift < 2 ^ 1024) :
    ∃ m : Magnitude, m.units = significand * 2 ^ shift * 2 ^ 1074 := by
  by_cases hzero : significand = 0
  · refine ⟨zero, ?_⟩
    simp only [hzero, Nat.zero_mul]
    rfl
  have hbits : significand.log2 < 53 := (Nat.log2_lt hzero).2 hsignificand
  have hleading : 2 ^ significand.log2 ≤ significand := Nat.log2_self_le hzero
  have hwidth : significand.log2 + shift < 1024 := by
    rw [← Nat.pow_lt_pow_iff_right Nat.one_lt_two, Nat.pow_add]
    exact Nat.lt_of_le_of_lt (Nat.mul_le_mul_right _ hleading) hlt
  -- the leading bit moves up to the place of `2 ^ 52`
  obtain ⟨gap, hgap⟩ : ∃ gap, significand.log2 + gap = 52 := ⟨52 - significand.log2, by omega⟩
  obtain ⟨exponent, hexponent⟩ : ∃ exponent, gap + exponent = shift + 1074 :=
    ⟨shift + 1074 - gap, by omega⟩
  have hlow : 2 ^ 52 ≤ significand * 2 ^ gap := by
    calc 2 ^ 52 = 2 ^ significand.log2 * 2 ^ gap := by rw [← Nat.pow_add, hgap]
      _ ≤ significand * 2 ^ gap := Nat.mul_le_mul_right _ hleading
  have hhigh : significand * 2 ^ gap < 2 ^ 53 := by
    calc significand * 2 ^ gap
        < 2 ^ (significand.log2 + 1) * 2 ^ gap :=
          Nat.mul_lt_mul_of_pos_right Nat.lt_log2_self (Nat.two_pow_pos gap)
      _ = 2 ^ 53 := by rw [← Nat.pow_add, Nat.add_right_comm, hgap]
  refine ⟨⟨significand * 2 ^ gap, exponent, hhigh, by omega, .inr hlow⟩, ?_⟩
  rw [units, Nat.mul_assoc, ← Nat.pow_add, hexponent, Nat.pow_add, Nat.mul_assoc]

/-- The magnitudes that are whole numbers have at most 53 significant bits. -/
theorem exists_of_units_eq {m : Magnitude} {n : Nat} (h : m.units = n * 2 ^ 1074) :
    ∃ significand shift : Nat, significand < 2 ^ 53 ∧ n = significand * 2 ^ shift := by
  have hsignificand := m.canonical.1
  rw [units] at h
  rcases Nat.le_total 1074 m.exponent with hle | hle
  · obtain ⟨shift, hshift⟩ := Nat.exists_eq_add_of_le' hle
    refine ⟨m.significand, shift, hsignificand, ?_⟩
    rw [hshift, Nat.pow_add, ← Nat.mul_assoc] at h
    exact (Nat.eq_of_mul_eq_mul_right (Nat.two_pow_pos 1074) h).symm
  · obtain ⟨below, hbelow⟩ := Nat.exists_eq_add_of_le' hle
    rw [hbelow, Nat.pow_add, ← Nat.mul_assoc] at h
    have hwhole := Nat.eq_of_mul_eq_mul_right (Nat.two_pow_pos m.exponent) h
    have hn : n < 2 ^ 53 :=
      Nat.lt_of_le_of_lt (hwhole ▸ Nat.le_mul_of_pos_right n (Nat.two_pow_pos below)) hsignificand
    exact ⟨n, 0, hn, (Nat.mul_one n).symm⟩

end Magnitude

namespace Binary64

theorem toEReal_finite {negative : Bool} {m : Magnitude} {v : ℝ}
    (hsign : negative = true ↔ v < 0) (hm : m.toReal = |v|) : (finite negative m).toEReal = v := by
  cases negative with
  | true =>
    refine congrArg Real.toEReal ?_
    rw [hm, abs_of_neg (hsign.1 rfl), neg_neg]
  | false =>
    have hv : 0 ≤ v := not_lt.1 fun hneg => Bool.false_ne_true (hsign.2 hneg)
    refine congrArg Real.toEReal ?_
    rw [hm, abs_of_nonneg hv]

theorem representable_iff {v : ℝ} : Representable v ↔ ∃ m : Magnitude, m.toReal = |v| := by
  constructor
  · rintro ⟨x, hfinite, hx⟩
    cases x with
    | nan => cases hfinite
    | infinite negative => cases hfinite
    | finite negative m =>
      refine ⟨m, ?_⟩
      cases negative with
      | false => rw [← EReal.coe_injective hx, abs_of_nonneg m.toReal_nonneg]
      | true => rw [← EReal.coe_injective hx, abs_neg, abs_of_nonneg m.toReal_nonneg]
  · rintro ⟨m, hm⟩
    exact ⟨.finite (decide (v < 0)) m, rfl, toEReal_finite decide_eq_true_iff hm⟩

theorem representable_intCast_iff {n : Int} (h : n.natAbs < 2 ^ 1024) :
    Representable n ↔
      ∃ significand shift : Nat, significand < 2 ^ 53 ∧ n.natAbs = significand * 2 ^ shift := by
  have hmagnitude : Representable n ↔ ∃ m : Magnitude, m.units = n.natAbs * 2 ^ 1074 := by
    rw [representable_iff]
    refine exists_congr fun m => ?_
    rw [← Magnitude.toReal_eq_natCast_iff, Nat.cast_natAbs, Int.cast_abs]
  rw [hmagnitude]
  constructor
  · rintro ⟨m, hm⟩
    exact Magnitude.exists_of_units_eq hm
  · rintro ⟨significand, shift, hsignificand, hn⟩
    rw [hn] at h ⊢
    exact Magnitude.exists_units_eq hsignificand h

/-- A rounded real is worth that real exactly if it is representable. -/
theorem toEReal_eq_iff_representable {negative : Bool} {m : Magnitude} {v : ℝ}
    (hsign : negative = true ↔ v < 0) (hm : m.IsNearest |v|) :
    (finite negative m).toEReal = v ↔ Representable v := by
  constructor
  · exact fun h => ⟨_, rfl, h⟩
  · intro h
    obtain ⟨other, hother⟩ := representable_iff.1 h
    exact toEReal_finite hsign (hm.toReal_eq hother)

end Binary64

namespace Decimal.Literal

/-- The decimal text of an integer with `.0` behind it. -/
def floatForm (n : Int) : Literal := { ofInt n with fraction := some ['0'] }

theorem floatForm_wellFormed (n : Int) : (floatForm n).WellFormed :=
  ⟨Text.isDigits_toDigits _, fun _ h => Option.some.inj h ▸ Text.isDigits_zeros 0,
    fun _ h => nomatch h⟩

theorem floatForm_text (n : Int) : (floatForm n).text = (Text.ofInt n ++ ".0").toList := by
  rw [String.toList_append, ← ofInt_text]
  simp [text, floatForm, ofInt, fractionText, exponentText]

theorem magnitude_floatForm (n : Int) : (floatForm n).magnitude = |(n : ℝ)| := by
  have hzero : Text.natOfDigits ['0'] = 0 := rfl
  simp [magnitude, floatForm, ofInt, Text.natOfDigits_toDigits, hzero, Nat.cast_natAbs]

theorem toBinary64_floatForm (n : Int64) :
    (floatForm n.toInt).toBinary64.isFinite = true ∧
      ((floatForm n.toInt).toBinary64.toEReal = (n.toInt : ℝ) ↔
        Binary64.Representable n.toInt) := by
  have hlt : (floatForm n.toInt).magnitude < Magnitude.overflow := by
    rw [magnitude_floatForm]
    exact Magnitude.abs_toInt_lt_overflow n
  obtain ⟨m, hnearest, hvalue⟩ := (floatForm n.toInt).toBinary64_spec.1 hlt
  rw [magnitude_floatForm] at hnearest
  rw [hvalue]
  refine ⟨rfl, Binary64.toEReal_eq_iff_representable ?_ hnearest⟩
  simp [floatForm, ofInt]

end Decimal.Literal
end EventRouting
