import EventRouting.Proofs.Value.Equality
import Mathlib.Data.EReal.Basic

set_option autoImplicit false

namespace EventRouting

noncomputable section

def Magnitude.toReal (m : Magnitude) : ℝ := m.significand * 2 ^ ((m.exponent : ℤ) - 1074)

/-- Halfway between the largest magnitude and `2 ^ 1024`, from where on reals round to infinity. -/
def Magnitude.overflow : ℝ := 2 ^ 1024 - 2 ^ 970

/-- The exact value of a float; NaN has none, and 0 stands in its place. -/
def Binary64.toEReal : Binary64 → EReal
  | .nan => 0
  | .infinite true => ⊥
  | .infinite false => ⊤
  | .finite true m => ((-m.toReal : ℝ) : EReal)
  | .finite false m => (m.toReal : EReal)

def Value.toEReal : Value → EReal
  | .integer n => ((n.toInt : ℝ) : EReal)
  | .float x => x.toEReal
  | _ => 0

namespace Quantity

def scaled (count : ℤ) : ℝ := count / 2 ^ 1074

def toEReal : Quantity → EReal
  | .belowAll => ⊥
  | .units count => (scaled count : EReal)
  | .aboveAll => ⊤

theorem scaled_lt_scaled {m n : ℤ} (h : m < n) : scaled m < scaled n :=
  div_lt_div_of_pos_right (Int.cast_lt.2 h) (by positivity)

theorem compare_eq_cmp (p q : Quantity) : p.compare q = cmp p.toEReal q.toEReal := by
  cases p with
  | belowAll =>
    cases q with
    | belowAll => exact (cmp_self_eq_eq _).symm
    | units n => exact ((cmp_eq_lt_iff _ _).2 (EReal.bot_lt_coe _)).symm
    | aboveAll => exact ((cmp_eq_lt_iff _ _).2 bot_lt_top).symm
  | units m =>
    cases q with
    | belowAll => exact ((cmp_eq_gt_iff _ _).2 (EReal.bot_lt_coe _)).symm
    | units n =>
      have hcoe : StrictMono fun count => (scaled count : EReal) :=
        fun _ _ h => EReal.coe_lt_coe_iff.2 (scaled_lt_scaled h)
      calc Ord.compare m n = cmp m n := (cmp_eq_compare m n).symm
        _ = cmp (scaled m : EReal) (scaled n) := (hcoe.cmp_map_eq m n).symm
    | aboveAll => exact ((cmp_eq_lt_iff _ _).2 (EReal.coe_lt_top _)).symm
  | aboveAll =>
    cases q with
    | belowAll => exact ((cmp_eq_gt_iff _ _).2 bot_lt_top).symm
    | units n => exact ((cmp_eq_gt_iff _ _).2 (EReal.coe_lt_top _)).symm
    | aboveAll => exact (cmp_self_eq_eq _).symm

theorem scaled_mul_unitsPerOne (n : ℤ) : scaled (n * 2 ^ 1074) = n := by
  rw [scaled, Int.cast_mul, Int.cast_pow, Int.cast_ofNat]
  exact mul_div_cancel_right₀ _ (by positivity)

theorem scaled_neg (count : ℤ) : scaled (-count) = -scaled count := by
  rw [scaled, Int.cast_neg]
  exact neg_div _ _

theorem scaled_units (m : Magnitude) : scaled m.units = m.toReal := by
  unfold scaled Magnitude.units Magnitude.toReal
  push_cast
  rw [zpow_sub₀ (by norm_num : (2 : ℝ) ≠ 0), zpow_natCast, ← mul_div_assoc]
  norm_cast

end Quantity

theorem Binary64.toEReal_eq {x : Binary64} {q : Quantity} (h : x.quantity? = some q) :
    x.toEReal = q.toEReal := by
  cases x with
  | nan => cases h
  | infinite negative => cases negative <;> cases h <;> rfl
  | finite negative m =>
    cases negative
    · cases h
      exact congrArg Real.toEReal (Quantity.scaled_units m).symm
    · cases h
      refine congrArg Real.toEReal ?_
      rw [Quantity.scaled_neg, Quantity.scaled_units]

namespace Value

theorem exists_quantity {a : Value} (ha : a.isNumeric = true) (hnan : a ≠ .float .nan) :
    ∃ q, a.quantity? = some q ∧ a.toEReal = q.toEReal := by
  cases a with
  | integer n =>
    refine ⟨.ofInt n.toInt, rfl, ?_⟩
    exact congrArg Real.toEReal (Quantity.scaled_mul_unitsPerOne n.toInt).symm
  | float x =>
    cases hx : x.quantity? with
    | none =>
      have hnone := Binary64.quantity?_eq_none_iff.1 hx
      cases x with
      | nan => exact absurd rfl hnan
      | _ => cases hnone
    | some q => exact ⟨q, hx, Binary64.toEReal_eq hx⟩
  | _ => cases ha

variable {a b : Value}

/-- Numbers are in the order of their exact values. -/
theorem compareNumbers?_eq_cmp (ha : a.isNumeric = true) (hb : b.isNumeric = true)
    (hnanA : a ≠ .float .nan) (hnanB : b ≠ .float .nan) :
    compareNumbers? a b = some (cmp a.toEReal b.toEReal) := by
  have ⟨p, hp, hpvalue⟩ := exists_quantity ha hnanA
  have ⟨q, hq, hqvalue⟩ := exists_quantity hb hnanB
  rw [compareNumbers?_eq_quantities, hp, hq, hpvalue, hqvalue, ← Quantity.compare_eq_cmp]
  rfl

theorem compareNumbers?_nan (h : a = .float .nan ∨ b = .float .nan) :
    compareNumbers? a b = none := by
  rw [compareNumbers?_eq_quantities]
  rcases h with rfl | rfl
  · rfl
  · cases a.quantity? <;> rfl

end Value
end
end EventRouting
