import EventRouting.Decimal.Nearest

set_option autoImplicit false

namespace EventRouting

def JsonIntegerRange (n : Int) : Prop := -2 ^ 63 ≤ n ∧ n < 2 ^ 64

instance (n : Int) : Decidable (JsonIntegerRange n) := inferInstanceAs (Decidable (_ ∧ _))

inductive JsonNumber
  | integer (value : Int) (inRange : JsonIntegerRange value)
  | float (negative : Bool) (magnitude : Magnitude)
deriving DecidableEq

inductive Json
  | null
  | boolean (value : Bool)
  | number (value : JsonNumber)
  | string (value : String)
  | array (items : List Json)
  | object (fields : List (String × Json))
deriving Inhabited

end EventRouting
