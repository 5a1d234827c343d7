import EventRouting.Decimal.Nearest

set_option autoImplicit false

namespace EventRouting

inductive Value
  | null
  | boolean (value : Bool)
  | integer (value : Int64)
  | float (value : Binary64)
  | string (value : String)
  | list (items : List Value)
  | object (fields : List (String × Value))
deriving Inhabited

namespace Value

def typeName : Value → String
  | .null => "null"
  | .boolean _ => "boolean"
  | .integer _ => "integer"
  | .float _ => "float"
  | .string _ => "string"
  | .list _ => "list"
  | .object _ => "object"

def isNull : Value → Bool
  | .null => true
  | _ => false

def isNumeric : Value → Bool
  | .integer _ | .float _ => true
  | _ => false

def toBool? : Value → Option Bool
  | .boolean b => some b
  | _ => none

/-- A number as a float, an integer rounded to the nearest one. -/
def toBinary64? : Value → Option Binary64
  | .integer n => some (.ofInt n.toInt)
  | .float x => some x
  | _ => none

def toString? : Value → Option String
  | .string s => some s
  | _ => none

def toList? : Value → Option (List Value)
  | .list items => some items
  | _ => none

end Value

namespace Fields

variable {α : Type}

def get? (key : String) : List (String × α) → Option α
  | [] => none
  | (k, v) :: rest => if k = key then some v else get? key rest

def insert (key : String) (value : α) : List (String × α) → List (String × α)
  | [] => [(key, value)]
  | (k, v) :: rest =>
    if key < k then (key, value) :: (k, v) :: rest
    else if key = k then (key, value) :: rest
    else (k, v) :: insert key value rest

/-- The fields of a list of pairs; of equal keys the last one counts. -/
def ofList (pairs : List (String × α)) : List (String × α) :=
  pairs.foldl (fun fields (k, v) => insert k v fields) []

def Ascending (fields : List (String × α)) : Prop :=
  fields.Pairwise fun a b => a.1 < b.1

end Fields
end EventRouting
