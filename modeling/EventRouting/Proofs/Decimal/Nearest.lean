import EventRouting.Proofs.Decimal.Rounding

set_option autoImplicit false

/-!
# What is nearest to a quotient

What a quotient is rounded to, with everything counted in units times the denominator. With the
exponent that rounding works with, a magnitude is either a multiple of the step between
significands, or it lies below all quotients that have this exponent. So none is nearer than the
rounded one, and there is none only for quotients from halfway between the largest magnitude and
the power of two behind it.
-/
namespace EventRouting

theorem roundHalfEven_spec (a : Nat) {b : Nat} (hb : 0 < b) :
    2 * (roundHalfEven a b * b) ≤ 2 * a + b ∧ 2 * a ≤ 2 * (roundHalfEven a b * b) + b ∧
      (2 * (roundHalfEven a b * b) = 2 * a + b ∨ 2 * a = 2 * (roundHalfEven a b * b) + b →
        roundHalfEven a b % 2 = 0) := by
  have hdiv := Nat.div_add_mod' a b
  have hmod := Nat.mod_lt a hb
  unfold roundHalfEven
  simp only [Bool.or_eq_true, Bool.and_eq_true, decide_eq_true_eq]
  split
  · generalize a / b * b = x at *
    omega
  · rw [Nat.add_mul]
    generalize a / b * b = x at *
    omega

namespace Magnitude

/-- `num / den` is `significand` steps of `2 ^ exponent` units, rounded to the nearest, a tie
going to the even one. Everything is in units times `den`. -/
structure Rounded (num den significand exponent : Nat) : Prop where
  den_pos : 0 < den
  least : exponent = 0 ∨ 2 ^ 52 * (den * 2 ^ exponent) ≤ num * 2 ^ 1074
  fits : num * 2 ^ 1074 < 2 ^ 53 * (den * 2 ^ exponent)
  below : 2 * (significand * (den * 2 ^ exponent)) ≤ 2 * (num * 2 ^ 1074) + den * 2 ^ exponent
  above : 2 * (num * 2 ^ 1074) ≤ 2 * (significand * (den * 2 ^ exponent)) + den * 2 ^ exponent
  even : 2 * (significand * (den * 2 ^ exponent)) = 2 * (num * 2 ^ 1074) + den * 2 ^ exponent ∨
    2 * (num * 2 ^ 1074) = 2 * (significand * (den * 2 ^ exponent)) + den * 2 ^ exponent →
    significand % 2 = 0

theorem log2_bounds (units : Nat) {den : Nat} (hden : 0 < den) :
    ((units / den).log2 - 52 = 0 ∨
      2 ^ 52 * (den * 2 ^ ((units / den).log2 - 52)) ≤ units) ∧
    units < 2 ^ 53 * (den * 2 ^ ((units / den).log2 - 52)) := by
  have hcomm (k e : Nat) : 2 ^ k * (den * 2 ^ e) = 2 ^ (k + e) * den := by
    rw [Nat.pow_add, Nat.mul_assoc, Nat.mul_comm den]
  rw [hcomm, hcomm, ← Nat.le_div_iff_mul_le hden, ← Nat.div_lt_iff_lt_mul hden]
  generalize units / den = quotient
  constructor
  · by_cases hlog : quotient.log2 ≤ 52
    · exact .inl (by omega)
    · have hne : quotient ≠ 0 := by
        rintro rfl
        exact hlog (by decide)
      rw [show 52 + (quotient.log2 - 52) = quotient.log2 by omega]
      exact .inr (Nat.log2_self_le hne)
  · refine Nat.lt_of_lt_of_le Nat.lt_log2_self ?_
    exact Nat.pow_le_pow_right Nat.two_pos (by omega)

theorem exists_rounded (num : Nat) {den : Nat} (hden : 0 < den) :
    ∃ significand exponent, Rounded num den significand exponent ∧
      nearest? num den = ofParts? significand exponent := by
  obtain ⟨hleast, hfits⟩ := log2_bounds (num * 2 ^ 1074) hden
  obtain ⟨hbelow, habove, heven⟩ := roundHalfEven_spec (num * 2 ^ 1074)
    (Nat.mul_pos hden (Nat.two_pow_pos ((num * 2 ^ 1074 / den).log2 - 52)))
  exact ⟨_, _, ⟨hden, hleast, hfits, hbelow, habove, heven⟩, rfl⟩

theorem two_pow_carry (exponent : Nat) : 2 ^ 52 * 2 ^ (exponent + 1) = 2 ^ 53 * 2 ^ exponent := by
  rw [← Nat.pow_add, ← Nat.pow_add, show 52 + (exponent + 1) = 53 + exponent by omega]

theorem ofParts?_eq_some {significand exponent : Nat} {m : Magnitude}
    (h : ofParts? significand exponent = some m) :
    m.units = significand * 2 ^ exponent ∧ m.significand % 2 = significand % 2 ∧
      (exponent < 2045 ∨ exponent = 2045 ∧ significand < 2 ^ 53) := by
  unfold ofParts? at h
  by_cases hcarry : significand = 2 ^ 53
  · simp only [if_pos hcarry, Option.dite_none_right_eq_some, Option.some.injEq] at h
    obtain ⟨hcanonical, rfl⟩ := h
    subst hcarry
    have heven : 2 ^ 52 % 2 = 2 ^ 53 % 2 := by decide
    exact ⟨two_pow_carry exponent, heven, .inl hcanonical.2.1⟩
  · simp only [if_neg hcarry, Option.dite_none_right_eq_some, Option.some.injEq] at h
    obtain ⟨hcanonical, rfl⟩ := h
    refine ⟨rfl, rfl, ?_⟩
    have hsignificand := hcanonical.1
    have hexponent := hcanonical.2.1
    omega

theorem ofParts?_eq_none {significand exponent : Nat} (h : ofParts? significand exponent = none)
    (hle : significand ≤ 2 ^ 53) (hfull : exponent = 0 ∨ 2 ^ 52 ≤ significand) :
    2046 ≤ exponent ∨ exponent = 2045 ∧ significand = 2 ^ 53 := by
  unfold ofParts? at h
  by_cases hcarry : significand = 2 ^ 53
  · simp only [if_pos hcarry, dite_eq_right_iff, reduceCtorEq, imp_false] at h
    have hexponent : ¬exponent + 1 ≤ 2045 :=
      fun hle => h ⟨by decide, hle, .inr (Nat.le_refl _)⟩
    omega
  · simp only [if_neg hcarry, dite_eq_right_iff, reduceCtorEq, imp_false] at h
    have hexponent : ¬exponent ≤ 2045 := fun hexponent => h ⟨by omega, hexponent, hfull⟩
    omega

theorem units_lt {m : Magnitude} {exponent : Nat} (h : m.exponent < exponent) :
    m.units < 2 ^ 52 * 2 ^ exponent :=
  calc m.units < 2 ^ 53 * 2 ^ m.exponent :=
        Nat.mul_lt_mul_of_pos_right m.canonical.1 (Nat.two_pow_pos _)
    _ = 2 ^ 52 * 2 ^ (m.exponent + 1) := (two_pow_carry m.exponent).symm
    _ ≤ 2 ^ 52 * 2 ^ exponent :=
        Nat.mul_le_mul_left _ (Nat.pow_le_pow_right Nat.two_pos h)

theorem units_lt_units {m n : Magnitude} (h : m.exponent < n.exponent) : m.units < n.units := by
  have hfull : 2 ^ 52 ≤ n.significand := n.canonical.2.2.resolve_left (by omega)
  exact Nat.lt_of_lt_of_le (units_lt h) (Nat.mul_le_mul_right _ hfull)

theorem units_injective {m n : Magnitude} (h : m.units = n.units) : m = n := by
  have hexponent : m.exponent = n.exponent := by
    rcases Nat.lt_trichotomy m.exponent n.exponent with hlt | heq | hgt
    · exact absurd h (Nat.ne_of_lt (units_lt_units hlt))
    · exact heq
    · exact absurd h.symm (Nat.ne_of_lt (units_lt_units hgt))
  have hsignificand : m.significand = n.significand := by
    rw [units, units, hexponent] at h
    exact Nat.eq_of_mul_eq_mul_right (Nat.two_pow_pos _) h
  cases m
  cases n
  cases hexponent
  cases hsignificand
  rfl

theorem twice_step_le (den : Nat) {i j : Nat} (h : i < j) : 2 * (den * 2 ^ i) ≤ den * 2 ^ j := by
  rw [Nat.mul_left_comm, ← Nat.pow_succ']
  exact Nat.mul_le_mul_left _ (Nat.pow_le_pow_right Nat.two_pos h)

theorem add_step_le (step : Nat) {m n : Nat} (h : m < n) : m * step + step ≤ n * step := by
  rw [← Nat.succ_mul]
  exact Nat.mul_le_mul_right step h

namespace Rounded

variable {num den significand exponent : Nat} (h : Rounded num den significand exponent)

include h

theorem step_pos : 0 < den * 2 ^ exponent := Nat.mul_pos h.den_pos (Nat.two_pow_pos _)

theorem significand_le : significand ≤ 2 ^ 53 := by
  have hstep := h.step_pos
  have hbelow := h.below
  have hfits := h.fits
  refine Nat.not_lt.1 fun hlarge => ?_
  have hmul := add_step_le (den * 2 ^ exponent) hlarge
  generalize significand * (den * 2 ^ exponent) = x at *
  generalize den * 2 ^ exponent = w at *
  omega

theorem full (hleast : 2 ^ 52 * (den * 2 ^ exponent) ≤ num * 2 ^ 1074) : 2 ^ 52 ≤ significand := by
  have hstep := h.step_pos
  have habove := h.above
  refine Nat.not_lt.1 fun hsmall => ?_
  have hmul := add_step_le (den * 2 ^ exponent) hsmall
  generalize significand * (den * 2 ^ exponent) = x at *
  generalize den * 2 ^ exponent = w at *
  omega

/-- Where another magnitude lies: on the same grid, or below all of it. -/
theorem apart (other : Magnitude) :
    other.units * den = significand * (den * 2 ^ exponent) ∨
      other.units * den + den * 2 ^ exponent ≤ significand * (den * 2 ^ exponent) ∨
      significand * (den * 2 ^ exponent) + den * 2 ^ exponent ≤ other.units * den ∨
      2 ^ 52 * (den * 2 ^ exponent) ≤ num * 2 ^ 1074 ∧
        other.units * den < 2 ^ 52 * (den * 2 ^ exponent) := by
  by_cases hexponent : exponent ≤ other.exponent
  · obtain ⟨k, hk⟩ := Nat.exists_eq_add_of_le hexponent
    have hgrid : other.units * den = other.significand * 2 ^ k * (den * 2 ^ exponent) := by
      rw [units, hk, Nat.pow_add]
      ac_rfl
    rw [hgrid]
    rcases Nat.lt_trichotomy (other.significand * 2 ^ k) significand with hlt | heq | hgt
    · exact .inr (.inl (add_step_le _ hlt))
    · exact .inl (by rw [heq])
    · exact .inr (.inr (.inl (add_step_le _ hgt)))
  · have hleast := h.least.resolve_left (by omega)
    refine .inr (.inr (.inr ⟨hleast, ?_⟩))
    rw [Nat.mul_left_comm, Nat.mul_comm den]
    exact Nat.mul_lt_mul_of_pos_right (units_lt (Nat.not_le.1 hexponent)) h.den_pos

theorem nearest (other : Magnitude) {x y t : Int}
    (hx : x = (significand * (den * 2 ^ exponent) : Nat)) (hy : y = (num * 2 ^ 1074 : Nat))
    (ht : t = (other.units * den : Nat)) :
    (x - y).natAbs ≤ (t - y).natAbs ∧
      (t ≠ x → (x - y).natAbs = (t - y).natAbs → significand % 2 = 0) := by
  have hstep := h.step_pos
  have hbelow := h.below
  have habove := h.above
  have heven := h.even
  rcases h.apart other with heq | hbelow' | habove' | ⟨hleast, hlt⟩
  · omega
  · omega
  · omega
  · -- the quotient is at most half a step below the significand, so it lies as far above `other`
    have hfull : significand * (den * 2 ^ exponent) = 2 ^ 52 * (den * 2 ^ exponent) ∨
        2 ^ 52 * (den * 2 ^ exponent) + den * 2 ^ exponent ≤
          significand * (den * 2 ^ exponent) := by
      rcases Nat.eq_or_lt_of_le (h.full hleast) with heq | hlt
      · exact .inl (by rw [heq])
      · exact .inr (add_step_le _ hlt)
    omega

theorem lt_of_eq_some {m : Magnitude} (hm : ofParts? significand exponent = some m) :
    2 * (num * 2 ^ 1074) < (2 ^ 54 - 1) * (den * 2 ^ 2045) := by
  obtain ⟨-, -, hexponent⟩ := ofParts?_eq_some hm
  rcases hexponent with hlt | ⟨htop, hlt⟩
  · have hfits := h.fits
    have hstep := twice_step_le den hlt
    generalize den * 2 ^ exponent = w at *
    generalize den * 2 ^ 2045 = v at *
    omega
  · rw [← htop]
    rcases Nat.eq_or_lt_of_le (Nat.succ_le_of_lt hlt) with hodd | hfar
    · -- the largest significand is odd, so nothing halfway above it is rounded to it
      have habove := Nat.lt_of_le_of_ne h.above fun tie => by
        have := h.even (.inr tie)
        omega
      have hmul := add_step_le (den * 2 ^ exponent) hlt
      generalize significand * (den * 2 ^ exponent) = x at *
      generalize den * 2 ^ exponent = w at *
      omega
    · have habove := h.above
      have hstep := h.step_pos
      have hmul := add_step_le (den * 2 ^ exponent) hfar
      rw [Nat.succ_mul] at hmul
      generalize significand * (den * 2 ^ exponent) = x at *
      generalize den * 2 ^ exponent = w at *
      omega

theorem le_of_eq_none (hnone : ofParts? significand exponent = none) :
    (2 ^ 54 - 1) * (den * 2 ^ 2045) ≤ 2 * (num * 2 ^ 1074) := by
  have hfull := h.least.imp_right h.full
  rcases ofParts?_eq_none hnone h.significand_le hfull with hlarge | ⟨htop, hcarry⟩
  · have hleast := h.least.resolve_left (by omega)
    have hstep := twice_step_le den hlarge
    generalize den * 2 ^ exponent = w at *
    generalize den * 2 ^ 2045 = v at *
    omega
  · have hbelow := h.below
    rw [hcarry] at hbelow
    rw [← htop]
    generalize den * 2 ^ exponent = w at *
    omega

end Rounded

end Magnitude
end EventRouting
