import EventRouting.Proofs.Decimal.Layout
import EventRouting.Proofs.Decimal.Nearest
import EventRouting.Proofs.Value.Exactness

set_option autoImplicit false

namespace EventRouting

namespace Magnitude

/-- Another magnitude is no nearer to a real, and one as near only if the significand is even. -/
structure IsNearest (m : Magnitude) (v : ℝ) : Prop where
  nearest : ∀ other : Magnitude, |m.toReal - v| ≤ |other.toReal - v|
  even : ∀ other : Magnitude, other ≠ m → |m.toReal - v| = |other.toReal - v| →
    m.significand % 2 = 0

theorem abs_toReal_sub (m : Magnitude) (num : Nat) {den : Nat} (hden : 0 < den) :
    |m.toReal - num / den| =
      (((m.units * den : Nat) : Int) - (num * 2 ^ 1074 : Nat)).natAbs / (2 ^ 1074 * den) := by
  have hden' : (den : ℝ) ≠ 0 := by
    exact_mod_cast hden.ne'
  have hunit : (2 ^ 1074 : ℝ) ≠ 0 := by positivity
  rw [← Quantity.scaled_units, Quantity.scaled, div_sub_div _ _ hunit hden', abs_div,
    abs_of_pos (by positivity : (0 : ℝ) < 2 ^ 1074 * den), Nat.cast_natAbs]
  simp only [Int.cast_abs, Int.cast_sub, Int.cast_mul, Int.cast_pow, Int.cast_natCast,
    Int.cast_ofNat, Nat.cast_mul, Nat.cast_pow, Nat.cast_ofNat]
  rw [mul_comm (num : ℝ)]

theorem overflow_mul (den : ℝ) :
    overflow * den * (2 * 2 ^ 1074) = (2 ^ 54 - 1) * (den * 2 ^ 2045) := by
  have htop : (2 : ℝ) ^ 1024 = 2 ^ 54 * 2 ^ 970 := pow_add 2 54 970
  have hscale : (2 : ℝ) ^ 2045 = 2 ^ 970 * (2 * 2 ^ 1074) := by
    rw [← pow_succ', ← pow_add]
  rw [overflow, htop, hscale]
  generalize (2 : ℝ) ^ 970 = low
  generalize 2 * (2 : ℝ) ^ 1074 = scale
  ring

theorem lt_overflow_iff (num : Nat) {den : Nat} (hden : 0 < den) :
    (num / den : ℝ) < overflow ↔ 2 * (num * 2 ^ 1074) < (2 ^ 54 - 1) * (den * 2 ^ 2045) := by
  have hden' : (0 : ℝ) < den := Nat.cast_pos.2 hden
  have hscale : (0 : ℝ) < 2 * 2 ^ 1074 := by positivity
  have hcast : ((2 ^ 54 - 1 : ℕ) : ℝ) = 2 ^ 54 - 1 := by norm_num
  rw [div_lt_iff₀ hden', ← mul_lt_mul_iff_left₀ hscale, overflow_mul, ← @Nat.cast_lt ℝ]
  simp only [Nat.cast_mul, Nat.cast_pow, Nat.cast_ofNat, hcast]
  rw [mul_left_comm]

theorem Rounded.isNearest {num den significand exponent : Nat}
    (h : Rounded num den significand exponent) {m : Magnitude}
    (hm : ofParts? significand exponent = some m) : m.IsNearest (num / den) := by
  obtain ⟨hunits, hparity, -⟩ := ofParts?_eq_some hm
  have hgrid : m.units * den = significand * (den * 2 ^ exponent) := by
    rw [hunits]
    ac_rfl
  have hunit : (0 : ℝ) < 2 ^ 1074 * den := by
    have := h.den_pos
    positivity
  constructor
  · intro other
    rw [abs_toReal_sub m num h.den_pos, abs_toReal_sub other num h.den_pos,
      div_le_div_iff_of_pos_right hunit, Nat.cast_le]
    exact (h.nearest other (congrArg _ hgrid) rfl rfl).1
  · intro other hne htie
    rw [abs_toReal_sub m num h.den_pos, abs_toReal_sub other num h.den_pos,
      div_left_inj' hunit.ne', Nat.cast_inj] at htie
    rw [hparity]
    refine (h.nearest other (congrArg _ hgrid) rfl rfl).2 (fun heq => hne ?_) htie
    exact units_injective (Nat.eq_of_mul_eq_mul_right h.den_pos (Int.ofNat_inj.1 heq))

theorem nearest?_spec (num : Nat) {den : Nat} (hden : 0 < den) :
    (∀ m, nearest? num den = some m → m.IsNearest (num / den) ∧ (num / den : ℝ) < overflow) ∧
      (nearest? num den = none → overflow ≤ (num / den : ℝ)) := by
  obtain ⟨significand, exponent, hrounded, hparts⟩ := exists_rounded num hden
  rw [hparts]
  refine ⟨fun m hm => ⟨hrounded.isNearest hm, ?_⟩, fun hnone => ?_⟩
  · exact (lt_overflow_iff num hden).2 (hrounded.lt_of_eq_some hm)
  · rw [← not_lt, lt_overflow_iff num hden, Nat.not_lt]
    exact hrounded.le_of_eq_none hnone

theorem natCast_div_pow (coefficient : Nat) (power : Int) :
    ((coefficient * 10 ^ power.toNat : Nat) : ℝ) / (10 ^ (-power).toNat : Nat) =
      coefficient * 10 ^ power := by
  simp only [Nat.cast_mul, Nat.cast_pow, Nat.cast_ofNat]
  rw [mul_div_assoc]
  congr 1
  cases power with
  | ofNat k => simp
  | negSucc k => simp [zpow_negSucc]

/-- Decimals are rounded correctly, and there is nothing only for those past the largest
magnitude. -/
theorem ofDecimal?_spec (coefficient : Nat) (power : Int) :
    (∀ m, ofDecimal? coefficient power = some m →
      m.IsNearest (coefficient * 10 ^ power) ∧ (coefficient * 10 ^ power : ℝ) < overflow) ∧
    (ofDecimal? coefficient power = none → overflow ≤ (coefficient * 10 ^ power : ℝ)) := by
  rw [ofDecimal?_eq_nearest?, ← natCast_div_pow]
  exact nearest?_spec _ (Nat.pow_pos (by decide))

end Magnitude

namespace Decimal.Literal

/-- The value of a literal without its sign: the digits before the point are whole, those behind
it a fraction of one, and the exponent counts factors of ten. -/
noncomputable def magnitude (l : Literal) : ℝ :=
  (Text.natOfDigits l.whole +
    Text.natOfDigits (l.fraction.getD []) / 10 ^ (l.fraction.getD []).length) *
      10 ^ (l.exponent.elim 0 Exponent.value)

theorem coefficient_mul (l : Literal) : (l.coefficient * 10 ^ l.power : ℝ) = l.magnitude := by
  have hten : (10 : ℝ) ≠ 0 := by norm_num
  have hpower : l.power = l.exponent.elim 0 Exponent.value - (l.fraction.getD []).length := by
    unfold power
    cases l.exponent <;> rfl
  rw [hpower, zpow_sub₀ hten, zpow_natCast, coefficient, Text.natOfDigits_append, magnitude]
  push_cast
  field_simp

/-- A literal is read as the number nearest to it, which is infinite only past the largest finite
one. -/
theorem toBinary64_spec (l : Literal) :
    (l.magnitude < Magnitude.overflow →
      ∃ m : Magnitude, m.IsNearest l.magnitude ∧ l.toBinary64 = .finite l.negative m) ∧
    (Magnitude.overflow ≤ l.magnitude → l.toBinary64 = .infinite l.negative) := by
  obtain ⟨hsome, hnone⟩ := Magnitude.ofDecimal?_spec l.coefficient l.power
  rw [coefficient_mul] at hsome hnone
  have hround : l.toBinary64 = Binary64.ofDecimal l.negative l.coefficient l.power := rfl
  rw [hround, Binary64.ofDecimal]
  cases hdecimal : Magnitude.ofDecimal? l.coefficient l.power with
  | some m =>
    obtain ⟨hnearest, hlt⟩ := hsome m hdecimal
    exact ⟨fun _ => ⟨m, hnearest, rfl⟩, fun hle => absurd hlt (not_lt.2 hle)⟩
  | none => exact ⟨fun hlt => absurd hlt (not_lt.2 (hnone hdecimal)), fun _ => rfl⟩

end Decimal.Literal
end EventRouting
