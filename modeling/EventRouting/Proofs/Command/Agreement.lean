import Mathlib.Data.List.Nodup
import EventRouting.Command.Route
import EventRouting.Proofs.Command.Checking
import EventRouting.Proofs.Routing.Filtering
import EventRouting.Routing.RouteFile

set_option autoImplicit false

namespace EventRouting

def Json.field? (key : String) : Json → Option Json
  | .object fields => Fields.get? key fields
  | _ => none

def Records.lines (text : String) : List String :=
  (Text.lines text).filter fun line => !Text.isBlankLine line

structure RouteFailure.WrittenAs (failure : RouteFailure) (entry : Json) : Prop where
  route : entry.field? "route" = some (.string failure.route)
  record : entry.field? "record" = some (Json.natural failure.record)
  error : entry.field? "error" = some (.string failure.error.message)

/-- A route has its share of some lines, as the checks of the lines say: the records received,
each with its place among the lines, and the failures. -/
structure Route.SharesAsChecked (route : Route) (reader : JsonReader)
    (check : String → CheckOutcome)
    (lines : List String) (received : List (Nat × Json)) (failures : List RouteFailure) :
    Prop where
  ascending : received.Pairwise fun a b => a.1 < b.1
  received_iff : ∀ k record, (k, record) ∈ received ↔ ∃ line event, lines[k]? = some line ∧
    (check line).Yields (.boolean true) ∧ reader.event line = .ok event ∧ record = event.toJson
  failed_iff : ∀ k, (∃ error, ⟨route.name, k, error⟩ ∈ failures) ↔
    ∃ line, lines[k]? = some line ∧ (check line).Fails
  error_eq : ∀ k line error, lines[k]? = some line → check line = .error (.eval error) →
    ∀ error', ⟨route.name, k, error'⟩ ∈ failures → error' = error
  neither_iff : ∀ k line, lines[k]? = some line →
    (((∀ record, (k, record) ∉ received) ∧ ∀ error, ⟨route.name, k, error⟩ ∉ failures) ↔
      (check line).Yields (.boolean false))

theorem RouteFailure.writtenAs_toJson (failure : RouteFailure) :
    failure.WrittenAs failure.toJson := by
  have hkeys : ["route", "record", "error"].Nodup := by decide
  exact ⟨Fields.get?_ofList hkeys (by simp), Fields.get?_ofList hkeys (by simp),
    Fields.get?_ofList hkeys (by simp)⟩

namespace RoutedRecords

variable {routed : RoutedRecords Event}

theorem routes_toJson {name : String} {events : List Event} (h : Fields.Ascending routed.routes)
    (hget : routed.get? name = some events) :
    (routed.toJson.field? "routes").bind (Json.field? name) =
      some (.array (events.map Event.toJson)) := by
  have hroutes : routed.toJson.field? "routes" =
      some (.object (Fields.ofList (routed.routes.map fun field =>
        (field.1, .array (field.2.map Event.toJson))))) :=
    Fields.get?_ofList (by decide : ["routes", "failures"].Nodup) (by simp)
  rw [hroutes]
  apply Fields.get?_ofList
  · rw [List.map_map]
    exact h.nodup
  · exact List.mem_map.2 ⟨(name, events), Fields.mem_of_get? hget, rfl⟩

theorem failures_toJson :
    routed.toJson.field? "failures" = some (.array (routed.failures.map RouteFailure.toJson)) :=
  Fields.get?_ofList (by decide : ["routes", "failures"].Nodup) (by simp)

end RoutedRecords

namespace Records

def eventOf (reader : JsonReader) (line : String) : Event :=
  match reader.event line with
  | .ok event => event
  | .error _ => default

variable {engine : PatternEngine} {reader : JsonReader}

theorem parse_eq_eventOf {line : String} (h : ∃ json, reader.value line = .ok json) :
    reader.event line = .ok (eventOf reader line) := by
  obtain ⟨json, hjson⟩ := h
  have hline : reader.event line = .ok (Event.ofJson json) := by
    rw [JsonReader.event, hjson]
    rfl
  rw [eventOf, hline]

theorem parse_getElem? {lines : List String}
    (hvalid : ∀ line ∈ lines, ∃ json, reader.value line = .ok json) {k : Nat} {line : String}
    (hline : lines[k]? = some line) : reader.event line = .ok (eventOf reader line) :=
  parse_eq_eventOf (hvalid line (List.mem_of_getElem? hline))

theorem parse_lines {text : String} (hfirst : (Text.dropBlanks text).toList.head? ≠ some '[')
    (hvalid : ∀ line ∈ lines text, ∃ json, reader.value line = .ok json) :
    parse reader text = .ok ((lines text).map (eventOf reader)) := by
  rw [parse_eq_ofLines hfirst]
  exact Fallible.mapM_eq_ok fun line hline => parse_eq_eventOf (hvalid line hline)

/-- The records that a route receives of some lines, each with its place. -/
def receivedLines (engine : PatternEngine) (reader : JsonReader) (route : Route)
    (lines : List String) : List (Nat × Json) :=
  (lines.zipIdx.filter fun (line, _) =>
    route.accepts engine (eventOf reader line)).map fun (line, k) =>
    (k, (eventOf reader line).toJson)

theorem map_receivedLines (route : Route) (lines : List String) :
    (receivedLines engine reader route lines).map (·.2) =
      ((lines.map (eventOf reader)).filter (route.accepts engine)).map Event.toJson := by
  have hlines : lines.filter (fun line => route.accepts engine (eventOf reader line)) =
      (lines.zipIdx.filter fun (line, _) =>
        route.accepts engine (eventOf reader line)).map (·.1) := by
    conv_lhs => rw [← List.zipIdx_map_fst 0 lines, List.filter_map]
    rfl
  rw [List.filter_map, List.map_map]
  show _ = (lines.filter fun line => route.accepts engine (eventOf reader line)).map _
  rw [hlines, receivedLines, List.map_map, List.map_map]
  rfl

theorem receivedLines_ascending (route : Route) (lines : List String) :
    (receivedLines engine reader route lines).Pairwise fun a b => a.1 < b.1 :=
  ((Route.zipIdx_ascending lines).filter _).map _ fun _ _ h => h

theorem mem_receivedLines {route : Route} {lines : List String} {k : Nat} {record : Json} :
    (k, record) ∈ receivedLines engine reader route lines ↔ ∃ line, lines[k]? = some line ∧
      route.accepts engine (eventOf reader line) = true ∧
        record = (eventOf reader line).toJson := by
  simp only [receivedLines, List.mem_map, List.mem_filter, Prod.exists,
    List.mem_zipIdx_iff_getElem?, Prod.mk.injEq]
  constructor
  · rintro ⟨line, k, ⟨hline, haccepts⟩, rfl, rfl⟩
    exact ⟨line, hline, haccepts, rfl⟩
  · rintro ⟨line, hline, haccepts, rfl⟩
    exact ⟨line, k, ⟨hline, haccepts⟩, rfl, rfl⟩

end Records

namespace Router.Serves

variable {engine : PatternEngine} {routes : List Route} {r : Router engine}
  (h : Serves routes r) {route : Route}
  (hroute : route ∈ routes)

include h hroute

theorem exists_compile : ∃ statement, Statement.compile route.condition = .ok statement := by
  obtain ⟨i, hi⟩ := List.getElem?_of_mem hroute
  obtain ⟨group, -, -, hcompile⟩ := h.group_of_route hi
  exact ⟨group.statement, hcompile⟩

theorem eq_of_name_eq {other : Route} (hother : other ∈ routes)
    (hname : other.name = route.name) : other = route :=
  List.inj_on_of_nodup_map (h.names ▸ h.nodup) hother hroute hname

theorem failed_iff {ρ : Type} (event : ρ → Event) (records : List ρ) (k : Nat)
    (error : EvalError) :
    ⟨route.name, k, error⟩ ∈ (r.route event records).1.failures ↔
      ∃ record, records[k]? = some record ∧ route.error? engine (event record) = some error := by
  rw [h.failed]
  constructor
  · rintro ⟨other, hother, record, hrecord, hname, herror⟩
    rw [h.eq_of_name_eq hroute hother hname] at herror
    exact ⟨record, hrecord, herror⟩
  · rintro ⟨record, hrecord, herror⟩
    exact ⟨route, hroute, record, hrecord, rfl, herror⟩

end Router.Serves

namespace Route

variable {engine : PatternEngine} {reader : JsonReader} {routes : List Route}
  {r : Router engine} (h : Router.Serves routes r) {route : Route}
  (hroute : route ∈ routes) {lines : List String}
  (hvalid : ∀ line ∈ lines, ∃ json, reader.value line = .ok json) {statement : Statement}
  (hcompile : Statement.compile route.condition = .ok statement) (tree : Bool)

include hcompile

theorem received_iff_holds {k : Nat} {record : Json} :
    (k, record) ∈ Records.receivedLines engine reader route lines ↔ ∃ line, lines[k]? = some line ∧
      statement.expr.holds engine (Records.eventOf reader line) = .ok true ∧
      record = (Records.eventOf reader line).toJson := by
  simp only [Records.mem_receivedLines, accepts_iff hcompile]

include hvalid in
theorem received_iff_checked {k : Nat} {record : Json} :
    (k, record) ∈ Records.receivedLines engine reader route lines ↔
      ∃ line event, lines[k]? = some line ∧
        (checkLine engine reader tree route.condition line).Yields (.boolean true) ∧
        reader.event line = .ok event ∧ record = event.toJson := by
  rw [received_iff_holds hcompile]
  constructor
  · rintro ⟨line, hline, hholds, rfl⟩
    have hevent := Records.parse_getElem? hvalid hline
    have hcheck := (checkLine_yields_boolean_iff hcompile hevent tree).2 hholds
    exact ⟨line, _, hline, hcheck, hevent, rfl⟩
  · rintro ⟨line, event, hline, hcheck, hevent, rfl⟩
    obtain rfl : Records.eventOf reader line = event :=
      Except.ok.inj ((Records.parse_getElem? hvalid hline).symm.trans hevent)
    exact ⟨line, hline, (checkLine_yields_boolean_iff hcompile hevent tree).1 hcheck, rfl⟩

include h hroute

theorem failed_iff_holds {k : Nat} {error : EvalError} :
    ⟨route.name, k, error⟩ ∈ (r.route id (lines.map (Records.eventOf reader))).1.failures ↔
      ∃ line, lines[k]? = some line ∧
        statement.expr.holds engine (Records.eventOf reader line) = .error error := by
  rw [h.failed_iff hroute]
  simp only [List.getElem?_map, Option.map_eq_some_iff, id, exists_exists_and_eq_and,
    error?_eq_some_iff hcompile]

include hvalid

theorem failed_iff_checked {k : Nat} :
    (∃ error,
      ⟨route.name, k, error⟩ ∈ (r.route id (lines.map (Records.eventOf reader))).1.failures) ↔
      ∃ line, lines[k]? = some line ∧
        (checkLine engine reader tree route.condition line).Fails := by
  simp only [failed_iff_holds h hroute hcompile]
  rw [exists_comm]
  refine exists_congr fun line => ?_
  rw [exists_and_left]
  refine and_congr_right fun hline => ?_
  exact (checkLine_fails_iff hcompile (Records.parse_getElem? hvalid hline) tree).symm

theorem failed_eq_checked {k : Nat} {line : String} {error error' : EvalError}
    (hline : lines[k]? = some line)
    (hcheck : checkLine engine reader tree route.condition line = .error (.eval error))
    (hfailed : ⟨route.name, k, error'⟩ ∈
      (r.route id (lines.map (Records.eventOf reader))).1.failures) : error' = error := by
  obtain ⟨_, hline', hholds⟩ := (failed_iff_holds h hroute hcompile).1 hfailed
  obtain rfl := Option.some.inj (hline.symm.trans hline')
  have hevent := Records.parse_getElem? hvalid hline
  rw [Expr.holds, (checkLine_eq_error_iff hcompile hevent tree).1 hcheck] at hholds
  exact (Except.error.inj hholds).symm

theorem neither_iff_checked {k : Nat} {line : String} (hline : lines[k]? = some line) :
    ((∀ record, (k, record) ∉ Records.receivedLines engine reader route lines) ∧
      ∀ error,
        ⟨route.name, k, error⟩ ∉ (r.route id (lines.map (Records.eventOf reader))).1.failures) ↔
      (checkLine engine reader tree route.condition line).Yields (.boolean false) := by
  rw [checkLine_yields_boolean_iff hcompile (Records.parse_getElem? hvalid hline)]
  simp only [received_iff_holds hcompile, failed_iff_holds h hroute hcompile, hline,
    Option.some.injEq, exists_eq_left']
  cases statement.expr.holds engine (Records.eventOf reader line) with
  | ok b => cases b <;> simp
  | error e => simp

omit hcompile in
theorem sharesAsChecked :
    route.SharesAsChecked reader (checkLine engine reader tree route.condition) lines
      (Records.receivedLines engine reader route lines)
      (r.route id (lines.map (Records.eventOf reader))).1.failures := by
  obtain ⟨statement, hcompile⟩ := h.exists_compile hroute
  exact {
    ascending := Records.receivedLines_ascending route lines
    received_iff := fun _ _ => received_iff_checked hvalid hcompile tree
    failed_iff := fun _ => failed_iff_checked h hroute hvalid hcompile tree
    error_eq := fun _ _ _ hline hcheck _ =>
      failed_eq_checked h hroute hvalid hcompile tree hline hcheck
    neither_iff := fun _ _ => neither_iff_checked h hroute hvalid hcompile tree }

end Route

/-- On a route file that gives a router and a file of lines that all hold records, the route
command answers. Each route has in the answer what the check command says of its condition and
the lines. -/
theorem executeRoute_agrees {engine : PatternEngine} {reader : JsonReader}
    {routesText input : String} {routes : List Route} {router : Router engine} (tree : Bool)
    (hroutes : reader.routes routesText = .ok routes)
    (hrouter : Router.build engine routes = .ok router)
    (hfirst : (Text.dropBlanks input).toList.head? ≠ some '[')
    (hvalid : ∀ line ∈ Records.lines input, ∃ json, reader.value line = .ok json) :
    ∃ output failures entries,
      executeRoute engine reader { routes := routesText, input := some input } = .ok output ∧
      output.field? "failures" = some (.array entries) ∧
      List.Forall₂ RouteFailure.WrittenAs failures entries ∧
      ∀ route ∈ routes, ∃ received,
        (output.field? "routes").bind (Json.field? route.name) =
          some (.array (received.map (·.2))) ∧
        route.SharesAsChecked reader (checkLine engine reader tree route.condition)
          (Records.lines input) received failures := by
  have hserves := Router.build_serves hrouter
  generalize hlines : (Records.lines input).map (Records.eventOf reader) = events
  have hparse : Records.parse reader input = .ok events :=
    hlines ▸ Records.parse_lines hfirst hvalid
  have hfilters := hserves.filters id events
  have houtput : executeRoute engine reader { routes := routesText, input := some input } =
      .ok (router.route id events).1.toJson := by
    rw [executeRoute, hroutes]
    simp only [Fallible.mapError_ok, Fallible.ok_bind, hrouter, hparse]
    rfl
  have hentries : List.Forall₂ RouteFailure.WrittenAs (router.route id events).1.failures
      ((router.route id events).1.failures.map RouteFailure.toJson) :=
    List.forall₂_map_right_iff.2
      (List.forall₂_same.2 fun failure _ => failure.writtenAs_toJson)
  refine ⟨_, _, _, houtput, RoutedRecords.failures_toJson, hentries, fun route hroute => ?_⟩
  refine ⟨Records.receivedLines engine reader route (Records.lines input), ?_, ?_⟩
  · rw [Records.map_receivedLines, hlines]
    exact RoutedRecords.routes_toJson hfilters.ascending (hfilters.received route hroute)
  · rw [← hlines]
    exact Route.sharesAsChecked hserves hroute hvalid tree

theorem executeRoute_agrees_mixed :
    let reader := Json.reader
    let routesText := "\x7b\"routes\": [\x7b\"name\": \"paid\", \"condition\": \"/paid\"\x7d," ++
      "\x7b\"name\": \"all\", \"condition\": \"true\"\x7d]\x7d"
    let input := "5\n\n \x7b\"paid\":true\x7d\n"
    let routes : List Route := [⟨"paid", "/paid"⟩, ⟨"all", "true"⟩]
    reader.routes routesText = .ok routes ∧ (∃ router, Router.build .plain routes = .ok router) ∧
    (Text.dropBlanks input).toList.head? ≠ some '[' ∧
    (∀ line ∈ Records.lines input, ∃ json, reader.value line = .ok json) ∧
    ∃ output failures entries,
      executeRoute .plain reader { routes := routesText, input := some input } = .ok output ∧
      output.field? "failures" = some (.array entries) ∧
      List.Forall₂ RouteFailure.WrittenAs failures entries ∧
      ∀ route ∈ routes, ∃ received,
        (output.field? "routes").bind (Json.field? route.name) =
          some (.array (received.map (·.2))) ∧
        route.SharesAsChecked reader (checkLine .plain reader false route.condition)
          (Records.lines input) received failures := by
  intro reader routesText input routes
  have hroutes : reader.routes routesText = .ok routes := by decide +kernel
  have hpaid : Statement.compile "/paid" = .ok ⟨"/paid", .pointer ⟨["paid"]⟩⟩ :=
    Statement.compile_canonical (e := .pointer ⟨["paid"]⟩) (List.cons_ne_nil _ _) (Nat.zero_le _)
  have htrue : Statement.compile "true" = .ok ⟨"true", .boolean true⟩ :=
    Statement.compile_canonical (e := .boolean true) trivial (Nat.zero_le _)
  have hrouter : Router.build .plain routes = .ok ⟨["paid", "all"],
      [⟨⟨"/paid", .pointer ⟨["paid"]⟩⟩, [0]⟩, ⟨⟨"true", .boolean true⟩, [1]⟩], .new⟩ := by
    simp [Router.build, routes, Router.addRoute, Router.joinGroup?, hpaid, htrue]
  have hvalid : ∀ line ∈ Records.lines input, ∃ json, reader.value line = .ok json := by
    simp only [← Fallible.isOk_iff]
    decide +kernel
  have hfirst : (Text.dropBlanks input).toList.head? ≠ some '[' := by decide +kernel
  exact ⟨hroutes, ⟨_, hrouter⟩, hfirst, hvalid,
    executeRoute_agrees false hroutes hrouter hfirst hvalid⟩

end EventRouting
