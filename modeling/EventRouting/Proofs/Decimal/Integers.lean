import EventRouting.Proofs.Decimal.Nearest

set_option autoImplicit false

namespace EventRouting

namespace Magnitude

theorem isSome_nearest? {n : Nat} (h : n < 2 ^ 64) : (nearest? n 1).isSome = true := by
  obtain ⟨significand, exponent, hrounded, hparts⟩ := exists_rounded n Nat.one_pos
  rw [hparts]
  cases hnone : ofParts? significand exponent with
  | some m => rfl
  | none =>
    have hlarge := hrounded.le_of_eq_none hnone
    have hsmall := twice_lt_two_pow h 1074
    have hmany (k : Nat) : 2 ^ k ≤ (2 ^ 54 - 1) * (1 * 2 ^ k) := by
      rw [Nat.one_mul]
      exact Nat.le_mul_of_pos_left _ (by decide)
    have hlt := Nat.lt_of_le_of_lt (Nat.le_trans (hmany 2045) hlarge) hsmall
    exact absurd ((Nat.pow_lt_pow_iff_right Nat.one_lt_two).1 hlt) (by decide)

theorem isSome_ofDecimal? {n : Nat} (h : n < 2 ^ 64) : (ofDecimal? n 0).isSome = true := by
  have hone : n * 10 ^ Int.toNat 0 = n := Nat.mul_one n
  rw [ofDecimal?_eq_nearest?, hone]
  exact isSome_nearest? h

def ofNat (n : Nat) (h : n < 2 ^ 64) : Magnitude := (ofDecimal? n 0).get (isSome_ofDecimal? h)

end Magnitude

theorem Binary64.ofInt_ofNat (n : Nat) (h : n < 2 ^ 64) : ofInt n = .finite false (.ofNat n h) := by
  have hnearest : Magnitude.ofDecimal? n 0 = some (.ofNat n h) := (Option.some_get _).symm
  simp [ofInt, ofDecimal, hnearest]

end EventRouting
