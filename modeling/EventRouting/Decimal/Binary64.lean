set_option autoImplicit false

-- powers are the built-in ones, also where powers in every monoid are imported
attribute [instance (20000), default_instance (20000)] instPowNat

namespace EventRouting

/-- The canonical forms of a magnitude: 53 significant bits unless the exponent is least. -/
def CanonicalMagnitude (significand exponent : Nat) : Prop :=
  significand < 2 ^ 53 ∧ exponent ≤ 2045 ∧ (exponent = 0 ∨ 2 ^ 52 ≤ significand)

instance (significand exponent : Nat) : Decidable (CanonicalMagnitude significand exponent) :=
  inferInstanceAs (Decidable (_ ∧ _ ∧ _))

/-- A finite magnitude: `significand * 2 ^ exponent` units of `2 ^ -1074`. -/
structure Magnitude where
  significand : Nat
  exponent : Nat
  canonical : CanonicalMagnitude significand exponent
deriving DecidableEq

inductive Binary64
  | nan
  | infinite (negative : Bool)
  | finite (negative : Bool) (magnitude : Magnitude)
deriving DecidableEq

namespace Magnitude

def zero : Magnitude := ⟨0, 0, by decide⟩

def units (m : Magnitude) : Nat := m.significand * 2 ^ m.exponent

def isZero (m : Magnitude) : Bool := m.significand = 0

end Magnitude

/-- A quantity in units of `2 ^ -1074`, or beyond all of them on either side. -/
inductive Quantity
  | belowAll
  | units (count : Int)
  | aboveAll
deriving DecidableEq

def Quantity.compare : Quantity → Quantity → Ordering
  | .belowAll, .belowAll => .eq
  | .belowAll, _ => .lt
  | .units _, .belowAll => .gt
  | .units m, .units n => Ord.compare m n
  | .units _, .aboveAll => .lt
  | .aboveAll, .aboveAll => .eq
  | .aboveAll, _ => .gt

def Quantity.ofInt (n : Int) : Quantity := .units (n * 2 ^ 1074)

namespace Binary64

def zero : Binary64 := .finite false .zero

def isFinite : Binary64 → Bool
  | .finite _ _ => true
  | _ => false

def isNaN : Binary64 → Bool
  | .nan => true
  | _ => false

def quantity? : Binary64 → Option Quantity
  | .nan => none
  | .infinite true => some .belowAll
  | .infinite false => some .aboveAll
  | .finite true m => some (.units (-(m.units : Int)))
  | .finite false m => some (.units m.units)

/-- Equality of numbers: the two zeros are equal, and NaN differs from itself. -/
def sameNumber (x y : Binary64) : Bool :=
  match x.quantity?, y.quantity? with
  | some p, some q => p.compare q = .eq
  | _, _ => false

end Binary64
end EventRouting
