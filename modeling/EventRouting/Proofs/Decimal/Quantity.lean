import EventRouting.Decimal.Binary64

set_option autoImplicit false

namespace EventRouting

theorem Quantity.compare_eq_iff {p q : Quantity} : p.compare q = .eq ↔ p = q := by
  cases p <;> cases q <;> simp [compare]

namespace Binary64

theorem quantity?_eq_none_iff {x : Binary64} : x.quantity? = none ↔ x.isNaN = true := by
  cases x with
  | nan => simp [quantity?, isNaN]
  | infinite negative => cases negative <;> simp [quantity?, isNaN]
  | finite negative m => cases negative <;> simp [quantity?, isNaN]

theorem isNaN_of_isFinite {x : Binary64} (h : x.isFinite = true) : x.isNaN = false := by
  cases x <;> simp_all [isFinite, isNaN]

theorem sameNumber_self {x : Binary64} (h : x.isNaN = false) : x.sameNumber x = true := by
  unfold sameNumber
  cases hx : x.quantity? with
  | none =>
    rw [quantity?_eq_none_iff, h] at hx
    cases hx
  | some q => simp [Quantity.compare_eq_iff]

end Binary64
end EventRouting
