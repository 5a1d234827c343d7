import EventRouting.Decimal.Order
import EventRouting.Proofs.Decimal.Quantity

set_option autoImplicit false

namespace EventRouting

section

variable {one u : Int} (hone : 0 < one)

include hone

theorem compare_mul_eq (n : Int) :
    Ord.compare (n * one) u = (Ord.compare n (u.tdiv one)).then (Ord.compare 0 (u.tmod one)) := by
  have hu := Int.mul_tdiv_add_tmod u one
  have hlow := Int.lt_tmod_of_pos u hone
  have hhigh := Int.tmod_lt_of_pos u hone
  generalize u.tdiv one = whole at hu ⊢
  generalize u.tmod one = left at hu hlow hhigh ⊢
  rw [← hu, Int.mul_comm one]
  rcases Int.lt_trichotomy n whole with hlt | heq | hgt
  · have hstep : (n + 1) * one ≤ whole * one :=
      Int.mul_le_mul_of_nonneg_right hlt (Int.le_of_lt hone)
    rw [Int.add_mul] at hstep
    rw [Int.compare_eq_lt.2 hlt, Int.compare_eq_lt.2 (by omega)]
    rfl
  · rw [heq, Int.compare_eq_eq.2 (rfl : whole = whole)]
    show _ = Ord.compare 0 left
    rcases Int.lt_trichotomy 0 left with hpos | hzero | hneg
    · rw [Int.compare_eq_lt.2 hpos, Int.compare_eq_lt.2 (by omega)]
    · rw [Int.compare_eq_eq.2 hzero, Int.compare_eq_eq.2 (by omega)]
    · rw [Int.compare_eq_gt.2 hneg, Int.compare_eq_gt.2 (by omega)]
  · have hstep : (whole + 1) * one ≤ n * one :=
      Int.mul_le_mul_of_nonneg_right hgt (Int.le_of_lt hone)
    rw [Int.add_mul] at hstep
    rw [Int.compare_eq_gt.2 hgt, Int.compare_eq_gt.2 (by omega)]
    rfl

theorem tdiv_range {k : Int} (hk : 0 < k) (hlow : -(k * one) ≤ u) (hhigh : u < k * one) :
    -k ≤ u.tdiv one ∧ u.tdiv one < k := by
  rcases Int.le_total 0 u with hu | hu
  · have hwhole := Int.tdiv_nonneg hu (Int.le_of_lt hone)
    have hlt := Int.ediv_lt_of_lt_mul hone hhigh
    rw [← Int.tdiv_eq_ediv_of_nonneg hu] at hlt
    omega
  · have hnonneg : 0 ≤ -u := by omega
    have hle : -u / one ≤ k := Int.ediv_le_of_le_mul hone (by omega)
    have hwhole : 0 ≤ -u / one := Int.ediv_nonneg hnonneg (Int.le_of_lt hone)
    rw [← Int.tdiv_eq_ediv_of_nonneg hnonneg, Int.neg_tdiv] at hle hwhole
    omega

theorem compare_mul_mul (m n : Int) : Ord.compare (m * one) (n * one) = Ord.compare m n := by
  rw [compare_mul_eq hone, Int.mul_tdiv_cancel n (Int.ne_of_gt hone), Int.mul_tmod_left]
  exact Ordering.then_eq

end

namespace Quantity

theorem compare_ofInt (m n : Int) : (ofInt m).compare (ofInt n) = Ord.compare m n :=
  compare_mul_mul (by decide +kernel) m n

theorem compare_swap (p q : Quantity) : (p.compare q).swap = q.compare p := by
  cases p <;> cases q <;> simp [compare, Int.compare_swap]

end Quantity

namespace Binary64

abbrev unitsPerOne : Int := 2 ^ 1074

theorem unitsPerOne_pos : 0 < unitsPerOne := by decide +kernel

theorem quantity?_aboveIntegers :
    aboveIntegers.quantity? = some (.units (2 ^ 63 * unitsPerOne)) := by
  decide +kernel

theorem quantity?_leastInteger :
    leastInteger.quantity? = some (.units (-(2 ^ 63 * unitsPerOne))) := by
  decide +kernel

theorem quantity?_finite (negative : Bool) (m : Magnitude) :
    (finite negative m).quantity? = some (.units (finite negative m).unitCount) := by
  cases negative <;> rfl

theorem compare?_eq (x y : Binary64) :
    x.compare? y = x.quantity?.bind fun p => y.quantity?.map p.compare := by
  rw [compare?]
  cases x.quantity? <;> cases y.quantity? <;> rfl

theorem compare?_of_units {x y : Binary64} {u v : Int} (hx : x.quantity? = some (.units u))
    (hy : y.quantity? = some (.units v)) : x.compare? y = some (Ord.compare u v) := by
  rw [compare?_eq, hx, hy]
  rfl

/-- An integer and a float are compared by their quantities. -/
theorem compareInteger?_eq (n : Int64) (x : Binary64) :
    compareInteger? n x = x.quantity?.map (Quantity.ofInt n.toInt).compare := by
  cases x with
  | nan => rfl
  | infinite negative =>
    rw [compareInteger?, compare?, compare?, quantity?_aboveIntegers, quantity?_leastInteger]
    cases negative <;> rfl
  | finite negative m =>
    have hnan : ¬ (finite negative m).isNaN = true := Bool.false_ne_true
    rw [compareInteger?, if_neg hnan, quantity?_finite,
      compare?_of_units (quantity?_finite negative m) quantity?_aboveIntegers,
      compare?_of_units (quantity?_finite negative m) quantity?_leastInteger, wholePart, fraction]
    generalize (finite negative m).unitCount = u
    show _ = some (Ord.compare (n.toInt * unitsPerOne) u)
    have hone := unitsPerOne_pos
    have hupper : (n.toInt + 1) * unitsPerOne ≤ 2 ^ 63 * unitsPerOne :=
      Int.mul_le_mul_of_nonneg_right n.toInt_lt (Int.le_of_lt hone)
    have hlower : -(2 ^ 63) * unitsPerOne ≤ n.toInt * unitsPerOne :=
      Int.mul_le_mul_of_nonneg_right n.le_toInt (Int.le_of_lt hone)
    rw [Int.add_mul] at hupper
    rw [Int.neg_mul] at hlower
    by_cases habove : 2 ^ 63 * unitsPerOne ≤ u
    · rw [Int.compare_eq_lt.2 (by omega : n.toInt * unitsPerOne < u)]
      exact if_pos (by simpa [Ordering.isGE_iff_ne_lt, Int.compare_eq_lt] using habove)
    · rw [if_neg (by simpa [Ordering.isGE_iff_ne_lt, Int.compare_eq_lt] using habove)]
      by_cases hbelow : u < -(2 ^ 63 * unitsPerOne)
      · rw [Int.compare_eq_gt.2 (by omega : u < n.toInt * unitsPerOne)]
        exact if_pos (by simpa [Ordering.isLT_iff_eq_lt, Int.compare_eq_lt] using hbelow)
      · rw [if_neg (by simpa [Ordering.isLT_iff_eq_lt, Int.compare_eq_lt] using hbelow),
          compare_mul_eq hone]
        -- within these bounds the clamp changes nothing
        have hwhole : -2 ^ 63 ≤ u.tdiv unitsPerOne ∧ u.tdiv unitsPerOne < 2 ^ 63 :=
          tdiv_range hone (by decide) (Int.not_lt.1 hbelow) (Int.not_le.1 habove)
        have hclamp : (Int64.ofIntClamp (u.tdiv unitsPerOne)).toInt = u.tdiv unitsPerOne :=
          Int64.toInt_ofIntClamp hwhole.1 (Int.le_of_lt_add_one hwhole.2)
        show some ((Ord.compare n.toInt (Int64.ofIntClamp (u.tdiv unitsPerOne)).toInt).then _) = _
        rw [hclamp]

end Binary64
end EventRouting
