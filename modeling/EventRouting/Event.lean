import EventRouting.Value.Basic
import EventRouting.Decimal.Literal
import EventRouting.Pointer

set_option autoImplicit false

namespace EventRouting

structure Event where
  fields : List (String × Value)
deriving Inhabited

namespace Event

/-- A value as an event. What is no object becomes the field with the empty key. -/
def ofValue : Value → Event
  | .object fields => ⟨fields⟩
  | value => ⟨[("", value)]⟩

def toValue (e : Event) : Value := .object e.fields

def index? (segment : String) : Option Nat :=
  let digits := match segment.toList with
    | '+' :: rest => rest
    | cs => cs
  if digits.isEmpty || !digits.all Text.isDigit then none
  else
    let n := Text.natOfDigits digits
    if n < 2 ^ 64 then some n else none

def child? (value : Value) (segment : String) : Option Value :=
  match value with
  | .object fields => Fields.get? segment fields
  | .list items => (index? segment).bind fun i => items[i]?
  | _ => none

def walk (value : Value) (segments : List String) : Option Value :=
  segments.foldlM child? value

/-- The value at a pointer; a pointer without segments addresses nothing. -/
def get? (e : Event) (p : Pointer) : Option Value :=
  match p.segments with
  | [] => none
  | first :: rest => (Fields.get? first e.fields).bind fun value => walk value rest

def getPath? (e : Event) (path : String) : Except PointerError (Option Value) :=
  (Pointer.parse path).map e.get?

def contains (e : Event) (p : Pointer) : Bool := (e.get? p).isSome

def fieldsOf : Option Value → List (String × Value)
  | some (.object fields) => fields
  | _ => []

/-- Sets the value below some fields at a path. Whatever stands on the path and is no object
gives way to one. -/
def putFields (value : Value) : List String → List (String × Value) → List (String × Value)
  | [], fields => fields
  | [last], fields => Fields.insert last value fields
  | segment :: rest, fields =>
    Fields.insert segment (.object (putFields value rest (fieldsOf (Fields.get? segment fields))))
      fields

def put (e : Event) (p : Pointer) (value : Value) : Event :=
  ⟨putFields value p.segments e.fields⟩

end Event
end EventRouting
