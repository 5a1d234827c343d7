import EventRouting.Command.Error
import EventRouting.Routing.Records

set_option autoImplicit false

namespace EventRouting

structure RouteOptions where
  /-- The route file's text. -/
  routes : String
  /-- The record file's text. -/
  input : Option String

def Json.natural (n : Nat) : Json :=
  if h : JsonIntegerRange n then .number (.integer n h) else .null

def RouteFailure.toJson (f : RouteFailure) : Json :=
  .object (Fields.ofList [("route", .string f.route), ("record", Json.natural f.record),
    ("error", .string f.error.message)])

def RoutedRecords.toJson (routed : RoutedRecords Event) : Json :=
  .object (Fields.ofList [
    ("routes", .object (Fields.ofList (routed.routes.map fun (name, events) =>
      (name, .array (events.map Event.toJson))))),
    ("failures", .array (routed.failures.map RouteFailure.toJson))])

def executeRoute (engine : PatternEngine) (reader : JsonReader) (options : RouteOptions) :
    Except CommandError Json := do
  let routes ← (reader.routes options.routes).mapError .json
  let router ← (Router.build engine routes).mapError .router
  match options.input with
  | none => throw .noInput
  | some text =>
    let events ← (Records.parse reader text).mapError .json
    return (router.route id events).1.toJson

end EventRouting
