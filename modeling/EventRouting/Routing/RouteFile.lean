import EventRouting.Json.Read
import EventRouting.Routing.JsonReader

set_option autoImplicit false

/-!
# Route files

A route file is a JSON object with the field `routes`, a list of objects with the fields `name`
and `condition`; the latter may also be called `when`. Fields with other names are passed over,
whatever they hold. Each of the two kinds of object may also be written as the array of its
fields in this order. A field that is missing or repeated is an error.
-/
namespace EventRouting

namespace RouteFile

def textOf : Document → Except JsonError String
  | .string pieces => stringOfPieces pieces
  | _ => .error (.expected "a string")

def withKeys (members : List (List JsonPiece × Document)) :
    Except JsonError (List (String × Document)) :=
  members.mapM fun (key, value) => do return (← stringOfPieces key, value)

def only (names : List String) (members : List (String × Document)) :
    Except JsonError Document :=
  match members.filter fun (key, _) => names.contains key with
  | [(_, value)] => .ok value
  | [] => .error (.expected ("the field " ++ names.headD ""))
  | _ => .error (.expected ("a single field " ++ names.headD ""))

def routeOf : Document → Except JsonError Route
  | .array [name, condition] => return ⟨← textOf name, ← textOf condition⟩
  | .object members => do
    let members ← withKeys members
    let name ← only ["name"] members
    let condition ← only ["condition", "when"] members
    return ⟨← textOf name, ← textOf condition⟩
  | _ => .error (.expected "a route")

def routesOf : Document → Except JsonError (List Route)
  | .array routes => routes.mapM routeOf
  | _ => .error (.expected "a list of routes")

def parse (text : String) : Except JsonError (List Route) := do
  match ← Document.parse text with
  | .array [routes] => routesOf routes
  | .object members => do
    let members ← withKeys members
    routesOf (← only ["routes"] members)
  | _ => .error (.expected "an object with routes")

end RouteFile

def Json.reader : JsonReader where
  value text := (parse text).mapError JsonError.message
  values text := (parseArray text).mapError JsonError.message
  routes text := (RouteFile.parse text).mapError JsonError.message

end EventRouting
