import EventRouting.Decimal.Nearest
import EventRouting.Decimal.Shortest

set_option autoImplicit false

namespace EventRouting

theorem roundHalfEven_eq {a b n : Nat} (hb : 0 < b) (hlow : 2 * (n * b) ≤ 2 * a + b)
    (hhigh : 2 * a ≤ 2 * (n * b) + b)
    (heven : 2 * (n * b) = 2 * a + b ∨ 2 * a = 2 * (n * b) + b → n % 2 = 0) :
    roundHalfEven a b = n := by
  have hdiv := Nat.div_add_mod a b
  have hmod := Nat.mod_lt a hb
  rw [Nat.mul_comm] at hdiv
  have hle : n ≤ a / b + 1 := by
    have hlt : n * b < (a / b + 2) * b := by
      rw [Nat.add_mul]
      omega
    exact Nat.le_of_lt_succ (Nat.lt_of_mul_lt_mul_right hlt)
  have hge : a / b ≤ n := by
    have hlt : a / b * b < (n + 1) * b := by
      rw [Nat.add_mul]
      omega
    exact Nat.le_of_lt_succ (Nat.lt_of_mul_lt_mul_right hlt)
  unfold roundHalfEven
  generalize hq : a / b = q at *
  generalize a % b = r at *
  obtain rfl | rfl : n = q ∨ n = q + 1 := by omega
  · generalize n * b = x at *
    have hround : 2 * r < b ∨ 2 * r = b ∧ n % 2 = 0 := by omega
    simp [hround]
  · rw [Nat.add_mul] at hlow hhigh heven
    generalize q * b = x at *
    have hround : ¬(2 * r < b ∨ 2 * r = b ∧ q % 2 = 0) := by omega
    simp [hround]

theorem twice_lt_two_pow {n k : Nat} (h : n < 2 ^ k) (j : Nat) :
    2 * (n * 2 ^ j) < 2 ^ (k + j + 1) := by
  rw [Nat.mul_comm 2, Nat.pow_succ, Nat.pow_add]
  have hlt := Nat.mul_lt_mul_of_pos_right h (Nat.two_pow_pos j)
  exact Nat.mul_lt_mul_of_pos_right hlt Nat.two_pos

theorem two_pow_le_ten_pow (k : Nat) : 2 ^ (3 * k) ≤ 10 ^ k := by
  rw [Nat.pow_mul]
  exact Nat.pow_le_pow_left (by decide) k

namespace Magnitude

/-- `num / den` is one of the reals that `m` is nearest to. Both sides are in quarters of a
unit, times `den`. -/
structure ReadsBack (m : Magnitude) (num den : Nat) : Prop where
  den_pos : 0 < den
  below : 4 * m.units * den ≤ 4 * num * 2 ^ 1074 + m.halfGapBelow * den
  above : 4 * num * 2 ^ 1074 ≤ 4 * m.units * den + m.halfGapAbove * den
  even : 4 * m.units * den = 4 * num * 2 ^ 1074 + m.halfGapBelow * den ∨
    4 * num * 2 ^ 1074 = 4 * m.units * den + m.halfGapAbove * den → m.significand % 2 = 0

theorem halfGapBelow_le (m : Magnitude) : m.halfGapBelow ≤ 2 * 2 ^ m.exponent := by
  unfold halfGapBelow
  split <;> omega

theorem halfGapBelow_pos (m : Magnitude) : 0 < m.halfGapBelow := by
  have := Nat.two_pow_pos m.exponent
  unfold halfGapBelow
  split <;> omega

theorem halfGapAbove_pos (m : Magnitude) : 0 < m.halfGapAbove := by
  have := Nat.two_pow_pos m.exponent
  unfold halfGapAbove
  omega

theorem ofParts?_eq (m : Magnitude) : ofParts? m.significand m.exponent = some m := by
  obtain ⟨significand, exponent, canonical⟩ := m
  have hne : significand ≠ 2 ^ 53 := Nat.ne_of_lt canonical.1
  rw [ofParts?, if_neg hne]
  exact dif_pos canonical

theorem ofParts?_carry {m : Magnitude} {exponent : Nat} (hs : m.significand = 2 ^ 52)
    (he : m.exponent = exponent + 1) : ofParts? (2 ^ 53) exponent = some m := by
  obtain ⟨significand, _, canonical⟩ := m
  simp only at hs he
  subst hs he
  rw [ofParts?, if_pos rfl]
  exact dif_pos canonical

theorem log2_eq {units den exponent : Nat} (hden : 0 < den)
    (hlow : exponent = 0 ∨ 2 ^ 52 * (den * 2 ^ exponent) ≤ units)
    (hhigh : units < 2 ^ 53 * (den * 2 ^ exponent)) : (units / den).log2 - 52 = exponent := by
  have hlt : units / den < 2 ^ (53 + exponent) := by
    rw [Nat.div_lt_iff_lt_mul hden, Nat.pow_add, Nat.mul_assoc, Nat.mul_comm (2 ^ exponent)]
    exact hhigh
  by_cases hzero : units / den = 0
  · rcases hlow with rfl | hlow
    · rw [hzero, Nat.log2_zero]
    · have hpos := Nat.mul_pos hden (Nat.two_pow_pos exponent)
      have hsmall := (Nat.div_eq_zero_iff_lt hden).1 hzero
      have hwide := Nat.le_mul_of_pos_right den (Nat.two_pow_pos exponent)
      omega
  · have hlog := (Nat.log2_lt hzero).2 hlt
    rcases hlow with rfl | hlow
    · omega
    · have hle : 2 ^ (52 + exponent) ≤ units / den := by
        rw [Nat.le_div_iff_mul_le hden, Nat.pow_add, Nat.mul_assoc, Nat.mul_comm (2 ^ exponent)]
        exact hlow
      have := (Nat.le_log2 hzero).2 hle
      omega

namespace ReadsBack

variable {m : Magnitude} {num den : Nat}

theorem steps (h : m.ReadsBack num den) :
    2 * (m.significand * (den * 2 ^ m.exponent)) ≤ 2 * (num * 2 ^ 1074) + den * 2 ^ m.exponent ∧
    2 * (num * 2 ^ 1074) ≤ 2 * (m.significand * (den * 2 ^ m.exponent)) + den * 2 ^ m.exponent ∧
    (2 * (m.significand * (den * 2 ^ m.exponent)) =
        2 * (num * 2 ^ 1074) + den * 2 ^ m.exponent ∨
      2 * (num * 2 ^ 1074) = 2 * (m.significand * (den * 2 ^ m.exponent)) + den * 2 ^ m.exponent →
      m.significand % 2 = 0) := by
  obtain ⟨_, below, above, even⟩ := h
  have hunits : 4 * m.units * den = 4 * (m.significand * (den * 2 ^ m.exponent)) := by
    rw [units]
    ac_rfl
  have hnum : 4 * num * 2 ^ 1074 = 4 * (num * 2 ^ 1074) := Nat.mul_assoc _ _ _
  have habove : m.halfGapAbove * den = 2 * (den * 2 ^ m.exponent) := by
    rw [halfGapAbove]
    ac_rfl
  have hbelow : m.halfGapBelow * den ≤ 2 * (den * 2 ^ m.exponent) := by
    rw [Nat.mul_comm den, ← Nat.mul_assoc]
    exact Nat.mul_le_mul_right den m.halfGapBelow_le
  rw [hunits, hnum] at below above even
  rw [habove] at above even
  generalize m.significand * (den * 2 ^ m.exponent) = x at *
  generalize num * 2 ^ 1074 = y at *
  refine ⟨by omega, by omega, fun tie => even ?_⟩
  rcases tie with tie | tie
  · exact .inl (by omega)
  · exact .inr (by omega)

/-- Below a power of two, where the significands lie twice as close, the significand is rounded
up to `2 ^ 53` and moves to the next exponent. -/
theorem nearest?_carry (h : m.ReadsBack num den) (hs : m.significand = 2 ^ 52)
    (he : 0 < m.exponent) (hlt : num * 2 ^ 1074 < 2 ^ 52 * (den * 2 ^ m.exponent)) :
    nearest? num den = some m := by
  have hden := h.den_pos
  obtain ⟨exponent, hexponent⟩ := Nat.exists_eq_succ_of_ne_zero (Nat.ne_of_gt he)
  have hwidth : 0 < den * 2 ^ exponent := Nat.mul_pos hden (Nat.two_pow_pos _)
  have hpow : 2 ^ m.exponent = 2 * 2 ^ exponent := by
    rw [hexponent, Nat.pow_succ, Nat.mul_comm]
  have hhalf : den * 2 ^ m.exponent = 2 * (den * 2 ^ exponent) := by
    rw [hpow, Nat.mul_left_comm]
  have hbelow : 8 * (2 ^ 52 * (den * 2 ^ exponent)) ≤
      4 * (num * 2 ^ 1074) + 2 * (den * 2 ^ exponent) := by
    have hgap : m.halfGapBelow * den = 2 * (den * 2 ^ exponent) := by
      rw [halfGapBelow, if_pos ⟨hs, he⟩, Nat.mul_comm, hhalf]
    have hunits : 4 * m.units * den = 8 * (2 ^ 52 * (den * 2 ^ exponent)) := by
      rw [units, hs, hpow, show 8 = 4 * 2 from rfl]
      ac_rfl
    rw [← hgap, ← hunits, ← Nat.mul_assoc 4 num]
    exact h.below
  rw [hhalf] at hlt
  have hlog : (num * 2 ^ 1074 / den).log2 - 52 = exponent := by
    generalize num * 2 ^ 1074 = y at *
    exact log2_eq hden (.inr (by omega)) (by omega)
  have hround : roundHalfEven (num * 2 ^ 1074) (den * 2 ^ exponent) = 2 ^ 53 := by
    generalize num * 2 ^ 1074 = y at *
    apply roundHalfEven_eq <;> omega
  simp only [nearest?, hlog, hround]
  exact ofParts?_carry hs hexponent

theorem nearest?_eq (h : m.ReadsBack num den) : nearest? num den = some m := by
  by_cases hcarry : m.significand = 2 ^ 52 ∧ 0 < m.exponent ∧
      num * 2 ^ 1074 < 2 ^ 52 * (den * 2 ^ m.exponent)
  · obtain ⟨hs, he, hlt⟩ := hcarry
    exact h.nearest?_carry hs he hlt
  · have hden := h.den_pos
    have hwidth : 0 < den * 2 ^ m.exponent := Nat.mul_pos hden (Nat.two_pow_pos _)
    obtain ⟨hlow, hhigh, heven⟩ := h.steps
    obtain ⟨hsignificand, -, hcanonical⟩ := m.canonical
    have hround := roundHalfEven_eq hwidth hlow hhigh heven
    have hlog : (num * 2 ^ 1074 / den).log2 - 52 = m.exponent := by
      have htop := Nat.mul_le_mul_right (den * 2 ^ m.exponent) (Nat.le_sub_one_of_lt hsignificand)
      have hbottom : m.exponent = 0 ∨ m.significand = 2 ^ 52 ∨
          (2 ^ 52 + 1) * (den * 2 ^ m.exponent) ≤ m.significand * (den * 2 ^ m.exponent) := by
        rcases hcanonical with he | hs
        · exact .inl he
        · rcases Nat.eq_or_lt_of_le hs with hs | hs
          · exact .inr (.inl hs.symm)
          · exact .inr (.inr (Nat.mul_le_mul_right _ hs))
      generalize m.significand * (den * 2 ^ m.exponent) = x at *
      generalize num * 2 ^ 1074 = y at *
      exact log2_eq hden (by omega) (by omega)
    simp only [nearest?, hlog, hround]
    exact ofParts?_eq m

theorem mul_right (h : m.ReadsBack num den) {k : Nat} (hk : 0 < k) :
    m.ReadsBack (num * k) (den * k) := by
  have hvalue : 4 * (num * k) * 2 ^ 1074 = 4 * num * 2 ^ 1074 * k := by
    rw [← Nat.mul_assoc 4, Nat.mul_right_comm]
  have hunits : 4 * m.units * (den * k) = 4 * m.units * den * k := by ac_rfl
  have hbelow : m.halfGapBelow * (den * k) = m.halfGapBelow * den * k := by ac_rfl
  have habove : m.halfGapAbove * (den * k) = m.halfGapAbove * den * k := by ac_rfl
  refine ⟨Nat.mul_pos h.den_pos hk, ?_, ?_, fun tie => h.even ?_⟩
  · rw [hvalue, hunits, hbelow, ← Nat.add_mul]
    exact Nat.mul_le_mul_right k h.below
  · rw [hvalue, hunits, habove, ← Nat.add_mul]
    exact Nat.mul_le_mul_right k h.above
  · rw [hvalue, hunits, hbelow, habove, ← Nat.add_mul, ← Nat.add_mul] at tie
    exact tie.imp (Nat.eq_of_mul_eq_mul_right hk) (Nat.eq_of_mul_eq_mul_right hk)

end ReadsBack

theorem nearest?_eq_zero {num den : Nat} (h : 2 * (num * 2 ^ 1074) < den) :
    nearest? num den = some zero := by
  apply ReadsBack.nearest?_eq
  have hgap : zero.halfGapAbove = 2 := by decide
  have hunits : zero.units = 0 := by decide
  refine ⟨by omega, ?_, ?_, fun _ => rfl⟩
  · simp only [hunits, Nat.mul_zero, Nat.zero_mul, Nat.zero_le]
  · rw [hunits, hgap, Nat.mul_assoc]
    generalize num * 2 ^ 1074 = y at *
    omega

theorem ofParts?_eq_none_of_lt {exponent : Nat} (h : 2045 < exponent) (significand : Nat) :
    ofParts? significand exponent = none := by
  unfold ofParts?
  by_cases hcarry : significand = 2 ^ 53
  · rw [if_pos hcarry]
    exact dif_neg fun hcanonical => Nat.not_le.2 (Nat.lt_succ_of_lt h) hcanonical.2.1
  · rw [if_neg hcarry]
    exact dif_neg fun hcanonical => Nat.not_le.2 h hcanonical.2.1

theorem nearest?_eq_none {num k : Nat} (hk : 1100 < k) (h : 2 ^ k ≤ num) :
    nearest? num 1 = none := by
  have hunits : 2 ^ (k + 1074) ≤ num * 2 ^ 1074 := by
    rw [Nat.pow_add]
    exact Nat.mul_le_mul_right _ h
  have hne : num * 2 ^ 1074 ≠ 0 :=
    Nat.ne_of_gt (Nat.lt_of_lt_of_le (Nat.two_pow_pos _) hunits)
  have hlog := (Nat.le_log2 hne).2 hunits
  unfold nearest?
  simp only [Nat.div_one]
  exact ofParts?_eq_none_of_lt (by omega) _

/-- The tests for exponents far outside the range only save work. -/
theorem ofDecimal?_eq_nearest? (coefficient : Nat) (power : Int) :
    ofDecimal? coefficient power =
      nearest? (coefficient * 10 ^ power.toNat) (10 ^ (-power).toNat) := by
  cases power with
  | ofNat k =>
    have hone : 10 ^ (-Int.ofNat k).toNat = 1 := by simp
    rw [ofDecimal?, hone]
    split
    · rename_i hzero
      rw [hzero, Nat.zero_mul, nearest?_eq_zero (by simp only [Nat.zero_mul]; decide)]
    · rename_i hpos
      split
      · rename_i hlarge
        have hle := Nat.mul_le_mul (Nat.log2_self_le hpos) (two_pow_le_ten_pow k)
        rw [← Nat.pow_add] at hle
        exact (nearest?_eq_none hlarge hle).symm
      · rfl
  | negSucc k =>
    have hone : 10 ^ (Int.negSucc k).toNat = 1 := rfl
    rw [ofDecimal?, hone, Nat.mul_one]
    show _ = nearest? coefficient (10 ^ (k + 1))
    split
    · rename_i hguard
      refine (nearest?_eq_zero ?_).symm
      calc
        2 * (coefficient * 2 ^ 1074) < 2 ^ (coefficient.log2 + 1 + 1074 + 1) :=
          twice_lt_two_pow Nat.lt_log2_self 1074
        _ ≤ 2 ^ (3 * (k + 1)) := Nat.pow_le_pow_right (by decide) (by omega)
        _ ≤ 10 ^ (k + 1) := two_pow_le_ten_pow (k + 1)
    · rfl

theorem ofDecimal?_eq {m : Magnitude} {coefficient : Nat} {power : Int}
    (h : m.ReadsBack (coefficient * 10 ^ power.toNat) (10 ^ (-power).toNat)) :
    ofDecimal? coefficient power = some m := by
  rw [ofDecimal?_eq_nearest?]
  exact h.nearest?_eq

end Magnitude
end EventRouting
