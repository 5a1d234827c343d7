import EventRouting.Decimal.Order
import EventRouting.Value.Basic

set_option autoImplicit false

namespace EventRouting.Value

def quantity? : Value → Option Quantity
  | .integer n => some (.ofInt n.toInt)
  | .float x => x.quantity?
  | _ => none

/-- The order of two numbers; NaN has none with any number. -/
def compareNumbers? : Value → Value → Option Ordering
  | .integer m, .integer n => some (Ord.compare m.toInt n.toInt)
  | .float x, .float y => x.compare? y
  | .integer n, .float x => Binary64.compareInteger? n x
  | .float x, .integer n => (Binary64.compareInteger? n x).map Ordering.swap
  | _, _ => none

mutual

/-- Equality as `==`, `!=` and list membership see it. -/
def equal : Value → Value → Bool
  | .null, .null => true
  | .boolean a, .boolean b => a = b
  | .string s, .string t => s = t
  | .list xs, .list ys => equalItems xs ys
  | .object fs, .object gs => equalFields fs gs
  | a, b => compareNumbers? a b = some .eq

def equalItems : List Value → List Value → Bool
  | [], [] => true
  | x :: xs, y :: ys => equal x y && equalItems xs ys
  | _, _ => false

/-- Fields in key order are equal when keys and values agree one by one. -/
def equalFields : List (String × Value) → List (String × Value) → Bool
  | [], [] => true
  | (k, x) :: fs, (l, y) :: gs => k = l && equal x y && equalFields fs gs
  | _, _ => false

end

/-- Equality of objects whatever the order of their fields: as many fields, and each of the one
found under its key in the other. -/
def equalByKey (fs gs : List (String × Value)) : Bool :=
  fs.length = gs.length && fs.all fun field => (Fields.get? field.1 gs).any (equal field.2)

end EventRouting.Value
