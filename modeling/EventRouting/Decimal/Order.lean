import EventRouting.Decimal.Binary64

set_option autoImplicit false

namespace EventRouting.Binary64

def compare? (x y : Binary64) : Option Ordering :=
  match x.quantity?, y.quantity? with
  | some p, some q => some (p.compare q)
  | _, _ => none

def aboveIntegers : Binary64 := .finite false ⟨2 ^ 52, 1085, by decide⟩

def leastInteger : Binary64 := .finite true ⟨2 ^ 52, 1085, by decide⟩

/-- A finite number as a count of units of `2 ^ -1074`. -/
def unitCount : Binary64 → Int
  | .finite true m => -(m.units : Int)
  | .finite false m => m.units
  | _ => 0

def wholePart (x : Binary64) : Int := x.unitCount.tdiv (2 ^ 1074)

def fraction (x : Binary64) : Int := x.unitCount.tmod (2 ^ 1074)

/-- The order of an integer and a float. Where the float's whole part is the integer, the fraction
decides. -/
def compareInteger? (n : Int64) (x : Binary64) : Option Ordering :=
  if x.isNaN then none
  else if (x.compare? aboveIntegers).any Ordering.isGE then some .lt
  else if (x.compare? leastInteger).any Ordering.isLT then some .gt
  else
    let whole := Int64.ofIntClamp x.wholePart
    some ((Ord.compare n.toInt whole.toInt).then (Ord.compare 0 x.fraction))

end EventRouting.Binary64
