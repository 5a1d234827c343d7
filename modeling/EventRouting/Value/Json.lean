import EventRouting.Event
import EventRouting.Json.Write

set_option autoImplicit false

namespace EventRouting

theorem jsonIntegerRange_toInt (n : Int64) : JsonIntegerRange n.toInt := by
  have := n.le_toInt
  have := n.toInt_lt
  exact ⟨by omega, by omega⟩

namespace Value

mutual

def ofJson : Json → Value
  | .null => .null
  | .boolean b => .boolean b
  | .number (.integer n _) =>
    match Int64.ofInt? n with
    | some n => .integer n
    | none => .float (.ofInt n)
  | .number (.float negative magnitude) => .float (.finite negative magnitude)
  | .string s => .string s
  | .array items => .list (ofJsonItems items)
  | .object fields => .object (ofJsonFields fields)

def ofJsonItems : List Json → List Value
  | [] => []
  | item :: rest => ofJson item :: ofJsonItems rest

def ofJsonFields : List (String × Json) → List (String × Value)
  | [] => []
  | (key, value) :: rest => (key, ofJson value) :: ofJsonFields rest

end

mutual

def toJson : Value → Json
  | .null => .null
  | .boolean b => .boolean b
  | .integer n => .number (.integer n.toInt (jsonIntegerRange_toInt n))
  | .float (.finite negative magnitude) => .number (.float negative magnitude)
  | .float _ => .null
  | .string s => .string s
  | .list items => .array (toJsonItems items)
  | .object fields => .object (toJsonFields fields)

def toJsonItems : List Value → List Json
  | [] => []
  | item :: rest => toJson item :: toJsonItems rest

def toJsonFields : List (String × Value) → List (String × Json)
  | [] => []
  | (key, value) :: rest => (key, toJson value) :: toJsonFields rest

end

def toJsonText (v : Value) : String := v.toJson.compact

end Value

namespace Event

def ofJson (j : Json) : Event := ofValue (Value.ofJson j)

def toJson (e : Event) : Json := e.toValue.toJson

end Event
end EventRouting
