import Mathlib.Data.List.Forall2
import EventRouting.Proofs.Evaluation.PlainPatterns
import EventRouting.Proofs.Routing.Gathering
import EventRouting.Proofs.Statement.RoundTrip
import EventRouting.Proofs.Value.Fields

set_option autoImplicit false

namespace EventRouting

namespace Route

/-- What a fresh evaluator says about an event, if the condition can be compiled. -/
def verdict? (engine : PatternEngine) (route : Route) (event : Event) :
    Option (Except EvalError Bool) :=
  let ev : Evaluator engine := .new
  match Statement.compile route.condition with
  | .ok statement => some (ev.evaluateConditional statement.expr event).1
  | .error _ => none

def accepts (engine : PatternEngine) (route : Route) (event : Event) : Bool :=
  match route.verdict? engine event with
  | some (.ok verdict) => verdict
  | _ => false

def error? (engine : PatternEngine) (route : Route) (event : Event) : Option EvalError :=
  match route.verdict? engine event with
  | some (.error error) => some error
  | _ => none

variable {engine : PatternEngine}

theorem verdict?_eq {route : Route} {statement : Statement}
    (h : Statement.compile route.condition = .ok statement) (event : Event) :
    route.verdict? engine event = some (statement.expr.holds engine event) := by
  rw [verdict?, h]
  exact congrArg some (Evaluator.evaluateConditional_eq Evaluator.faithful_new _ event)

theorem accepts_iff {route : Route} {statement : Statement}
    (h : Statement.compile route.condition = .ok statement) (event : Event) :
    route.accepts engine event = true ↔ statement.expr.holds engine event = .ok true := by
  rw [accepts, verdict?_eq h event]
  cases statement.expr.holds engine event <;> simp

theorem error?_eq_some_iff {route : Route} {statement : Statement}
    (h : Statement.compile route.condition = .ok statement) (event : Event) (error : EvalError) :
    route.error? engine event = some error ↔ statement.expr.holds engine event = .error error := by
  rw [error?, verdict?_eq h event]
  cases statement.expr.holds engine event <;> simp

end Route

def RouteFailure.place (routes : List Route) (failure : RouteFailure) : Nat × Nat × Nat :=
  let names := routes.map (·.name)
  let conditions := routes.map (·.condition)
  let i := names.idxOf failure.route
  (failure.record, conditions.idxOf (conditions.getD i ""), i)

def RouteFailure.Before (routes : List Route) (a b : RouteFailure) : Prop :=
  Prod.Lex (· < ·) (Prod.Lex (· < ·) (· < ·)) (a.place routes) (b.place routes)

/-- The outcome of a batch when each route filters the batch on its own. -/
structure RoutedRecords.Filters {ρ : Type} (engine : PatternEngine) (routes : List Route)
    (event : ρ → Event)
    (records : List ρ) (routed : RoutedRecords ρ) : Prop where
  ascending : Fields.Ascending routed.routes
  names : ∀ name, name ∈ routed.routes.map (·.1) ↔ name ∈ routes.map (·.name)
  received : ∀ route ∈ routes,
    routed.get? route.name = some (records.filter fun record => route.accepts engine (event record))
  failed : ∀ failure, failure ∈ routed.failures ↔
    ∃ route ∈ routes, ∃ record, records[failure.record]? = some record ∧
      route.name = failure.route ∧ route.error? engine (event record) = some failure.error
  ordered : routed.failures.Pairwise (RouteFailure.Before routes)

namespace Router

theorem keys_eq {α : Type} (names : List String) (f : Nat → α) :
    (names.zipIdx.map fun (name, i) => (name, f i)).map (·.1) = names := by
  rw [List.map_map]
  exact List.zipIdx_map_fst 0 names

variable {engine : PatternEngine}

namespace Serves

variable {routes : List Route} {r : Router engine} (h : Serves routes r)

include h

theorem mem_receivers_iff {i : Nat} {route : Route} (hroute : routes[i]? = some route)
    (event : Event) :
    i ∈ receivers engine r.predicates event ↔ route.accepts engine event = true := by
  rw [mem_receivers]
  constructor
  · rintro ⟨group, hgroup, hi, hholds⟩
    obtain ⟨route', hroute', -, hcompile⟩ := h.compile_eq hgroup hi
    obtain rfl : route' = route := Option.some.inj (hroute'.symm.trans hroute)
    exact (Route.accepts_iff hcompile event).2 hholds
  · intro haccepts
    obtain ⟨group, hgroup, hi, hcompile⟩ := h.group_of_route hroute
    exact ⟨group, hgroup, hi, (Route.accepts_iff hcompile event).1 haccepts⟩

theorem received {ρ : Type} (event : ρ → Event) (records : List ρ) {route : Route}
    (hroute : route ∈ routes) :
    (r.route event records).1.get? route.name =
      some (records.filter fun record => route.accepts engine (event record)) := by
  obtain ⟨i, hi⟩ := List.getElem?_of_mem hroute
  have hname : (route.name, i) ∈ r.names.zipIdx := by
    rw [List.mem_zipIdx_iff_getElem?, h.names, List.getElem?_map, hi]
    rfl
  rw [h.route_eq, RoutedRecords.get?]
  apply Fields.get?_ofList
  · rw [keys_eq r.names (receivedBy engine r.predicates event records)]
    exact h.nodup
  · refine List.mem_map.2 ⟨(route.name, i), hname, ?_⟩
    simp only [receivedBy, h.mem_receivers_iff hi, Bool.decide_eq_true]

theorem mem_names {ρ : Type} (event : ρ → Event) (records : List ρ) (name : String) :
    name ∈ (r.route event records).1.routes.map (·.1) ↔ name ∈ routes.map (·.name) := by
  rw [h.route_eq, Fields.mem_keys_ofList,
    keys_eq r.names (receivedBy engine r.predicates event records), h.names]

end Serves

theorem mem_groupFailures {names : List String} {record : Nat} {event : Event}
    {group : PredicateGroup} {failure : RouteFailure} :
    failure ∈ groupFailures engine names record event group ↔
      failure.record = record ∧ group.statement.expr.holds engine event = .error failure.error ∧
        ∃ i ∈ group.routes, failure.route = names.getD i "" := by
  obtain ⟨route, index, error⟩ := failure
  unfold groupFailures
  split
  · rename_i hholds
    simp [hholds]
  · rename_i e hholds
    simp only [List.mem_map, RouteFailure.mk.injEq, hholds, Except.error.injEq]
    constructor
    · rintro ⟨i, hi, rfl, rfl, rfl⟩
      exact ⟨rfl, rfl, i, hi, rfl⟩
    · rintro ⟨rfl, rfl, i, hi, rfl⟩
      exact ⟨i, hi, rfl, rfl, rfl⟩

namespace Serves

variable {routes : List Route} {r : Router engine} (h : Serves routes r)

include h

theorem failures_eq {ρ : Type} (event : ρ → Event) (records : List ρ) :
    (r.route event records).1.failures = records.zipIdx.flatMap fun (record, i) =>
      r.predicates.flatMap (groupFailures engine r.names i (event record)) := by
  rw [h.route_eq]

theorem name_eq {i : Nat} {route : Route} (hroute : routes[i]? = some route) :
    r.names.getD i "" = route.name := by
  rw [List.getD_eq_getElem?_getD, h.names, List.getElem?_map, hroute]
  rfl

theorem failed {ρ : Type} (event : ρ → Event) (records : List ρ) (failure : RouteFailure) :
    failure ∈ (r.route event records).1.failures ↔
      ∃ route ∈ routes, ∃ record, records[failure.record]? = some record ∧
        route.name = failure.route ∧ route.error? engine (event record) = some failure.error := by
  simp only [h.failures_eq, List.mem_flatMap, Prod.exists, List.mem_zipIdx_iff_getElem?,
    mem_groupFailures]
  constructor
  · rintro ⟨record, _, hrecord, group, hgroup, rfl, hholds, i, hi, hname⟩
    obtain ⟨route, hroute, -, hcompile⟩ := h.compile_eq hgroup hi
    refine ⟨route, List.mem_of_getElem? hroute, record, hrecord, ?_, ?_⟩
    · rw [hname, h.name_eq hroute]
    · exact (Route.error?_eq_some_iff hcompile _ _).2 hholds
  · rintro ⟨route, hroute, record, hrecord, hname, herror⟩
    obtain ⟨i, hi⟩ := List.getElem?_of_mem hroute
    obtain ⟨group, hgroup, hmem, hcompile⟩ := h.group_of_route hi
    refine ⟨record, failure.record, hrecord, group, hgroup, rfl, ?_, i, hmem, ?_⟩
    · exact (Route.error?_eq_some_iff hcompile _ _).1 herror
    · rw [← hname, h.name_eq hi]

theorem place_eq {group : PredicateGroup} (hgroup : group ∈ r.predicates) {i record : Nat}
    (hi : i ∈ group.routes) (error : EvalError) :
    (RouteFailure.mk (r.names.getD i "") record error).place routes =
      (record, (routes.map (·.condition)).idxOf group.statement.text, i) := by
  obtain ⟨route, hroute, hcondition, -⟩ := h.compile_eq hgroup hi
  have hname : (routes.map (·.name))[i]? = some route.name := by
    rw [List.getElem?_map, hroute]
    rfl
  have hindex : (routes.map (·.name)).idxOf route.name = i := by
    obtain ⟨hlt, hget⟩ := List.getElem?_eq_some_iff.1 hname
    rw [← hget]
    exact List.Nodup.idxOf_getElem (h.names ▸ h.nodup) i hlt
  have htext : (routes.map (·.condition)).getD i "" = group.statement.text := by
    rw [List.getD_eq_getElem?_getD, List.getElem?_map, hroute]
    exact hcondition
  simp only [RouteFailure.place, h.name_eq hroute, hindex, htext]

theorem predicates_in_order : r.predicates.Pairwise fun group group' =>
    (routes.map (·.condition)).idxOf group.statement.text <
      (routes.map (·.condition)).idxOf group'.statement.text := by
  have htexts := Occurrences.eraseDups_in_order (routes.map (·.condition))
  rwa [← Route.conditions, ← h.groups.texts, List.pairwise_map] at htexts

theorem groupFailures_place {group : PredicateGroup} (hgroup : group ∈ r.predicates)
    {record : Nat} {event : Event} {failure : RouteFailure}
    (hfailure : failure ∈ groupFailures engine r.names record event group) :
    ∃ i, failure.place routes =
      (record, (routes.map (·.condition)).idxOf group.statement.text, i) := by
  obtain ⟨name, index, error⟩ := failure
  obtain ⟨rfl, -, i, hi, rfl⟩ := mem_groupFailures.1 hfailure
  exact ⟨i, h.place_eq hgroup hi error⟩

theorem groupFailures_ordered {group : PredicateGroup} (hgroup : group ∈ r.predicates)
    (record : Nat) (event : Event) :
    (groupFailures engine r.names record event group).Pairwise (RouteFailure.Before routes) := by
  unfold groupFailures
  split
  · exact List.Pairwise.nil
  · rename_i error _
    have hindices : group.routes.Pairwise (· < ·) :=
      h.groups.indices group hgroup ▸ Route.indices_ascending routes group.statement.text
    refine List.pairwise_map.2 (hindices.imp_of_mem fun hi hj hlt => ?_)
    rw [RouteFailure.Before, h.place_eq hgroup hi, h.place_eq hgroup hj]
    exact .right _ (.right _ hlt)

theorem ordered {ρ : Type} (event : ρ → Event) (records : List ρ) :
    (r.route event records).1.failures.Pairwise (RouteFailure.Before routes) := by
  rw [h.failures_eq]
  -- within a record the groups stand in order, and between records the records decide
  refine List.pairwise_flatMap.2 ⟨fun (record, i) _ => ?_, ?_⟩
  · refine List.pairwise_flatMap.2 ⟨fun group hgroup => h.groupFailures_ordered hgroup i _, ?_⟩
    refine h.predicates_in_order.imp_of_mem fun hgroup hgroup' hlt a ha b hb => ?_
    obtain ⟨j, hj⟩ := h.groupFailures_place hgroup ha
    obtain ⟨k, hk⟩ := h.groupFailures_place hgroup' hb
    rw [RouteFailure.Before, hj, hk]
    exact .right _ (.left _ _ hlt)
  · refine (Route.zipIdx_ascending records).imp fun hlt a ha b hb => ?_
    obtain ⟨group, hgroup, ha⟩ := List.mem_flatMap.1 ha
    obtain ⟨group', hgroup', hb⟩ := List.mem_flatMap.1 hb
    obtain ⟨j, hj⟩ := h.groupFailures_place hgroup ha
    obtain ⟨k, hk⟩ := h.groupFailures_place hgroup' hb
    rw [RouteFailure.Before, hj, hk]
    exact .left _ _ hlt

theorem filters {ρ : Type} (event : ρ → Event) (records : List ρ) :
    (r.route event records).1.Filters engine routes event records where
  ascending := by
    rw [h.route_eq]
    exact Fields.ofList_ascending
  names := h.mem_names event records
  received := fun _ hroute => h.received event records hroute
  failed := h.failed event records
  ordered := h.ordered event records

theorem route {ρ : Type} (event : ρ → Event) (records : List ρ) :
    Serves routes (r.route event records).2 :=
  ⟨h.names, h.nodup, h.groups, (verdictTable_eq r.predicates (records.map event) h.faithful).2⟩

end Serves

def routeAll {ρ : Type} (r : Router engine) (event : ρ → Event) :
    List (List ρ) → List (RoutedRecords ρ) × Router engine
  | [] => ([], r)
  | records :: rest =>
    let (routed, r) := r.route event records
    let (others, r) := r.routeAll event rest
    (routed :: others, r)

theorem Serves.routeAll {ρ : Type} {routes : List Route} (event : ρ → Event)
    (batches : List (List ρ)) {r : Router engine} (h : Serves routes r) :
    List.Forall₂ (RoutedRecords.Filters engine routes event) batches (r.routeAll event batches).1 ∧
      Serves routes (r.routeAll event batches).2 := by
  induction batches generalizing r with
  | nil => exact ⟨.nil, h⟩
  | cons records rest ih =>
    obtain ⟨hothers, hserves⟩ := ih (h.route event records)
    exact ⟨.cons (h.filters event records) hothers, hserves⟩

/-- Whatever batches go through a router one after the other, each is filtered for each route as
if there were only this route and this batch. -/
theorem routeAll_filters {ρ : Type} {routes : List Route} {r : Router engine}
    (h : build engine routes = .ok r) (event : ρ → Event) (batches : List (List ρ)) :
    List.Forall₂ (RoutedRecords.Filters engine routes event) batches (r.routeAll event batches).1 :=
  ((build_serves h).routeAll event batches).1

theorem routeAll_filters_shared :
    let routes : List Route := [⟨"paid", "/paid"⟩, ⟨"named", "/name =~ \"ab\""⟩, ⟨"again", "/paid"⟩]
    let batches : List (List Event) :=
      [[⟨[("name", .string "xab")]⟩, ⟨[("paid", .boolean true)]⟩], [], [⟨[]⟩]]
    ∃ r, build .plain routes = .ok r ∧ r.predicateCount = 2 ∧
      List.Forall₂ (RoutedRecords.Filters .plain routes id) batches (r.routeAll id batches).1 := by
  intro routes batches
  let named := Expr.binary .matches (.pointer ⟨["name"]⟩) (.string "ab")
  have hpaid : Statement.compile "/paid" = .ok ⟨"/paid", .pointer ⟨["paid"]⟩⟩ :=
    Statement.compile_canonical (e := .pointer ⟨["paid"]⟩) (List.cons_ne_nil _ _) (Nat.zero_le _)
  have hnamed : Statement.compile "/name =~ \"ab\"" = .ok ⟨"/name =~ \"ab\"", named⟩ :=
    Statement.compile_canonical (e := named) ⟨List.cons_ne_nil _ _, trivial⟩ (by decide)
  have hbuild : build .plain routes = .ok ⟨["paid", "named", "again"],
      [⟨⟨"/paid", .pointer ⟨["paid"]⟩⟩, [0, 2]⟩, ⟨⟨"/name =~ \"ab\"", named⟩, [1]⟩], .new⟩ := by
    simp [build, routes, addRoute, joinGroup?, hpaid, hnamed]
  exact ⟨_, hbuild, rfl, routeAll_filters hbuild id batches⟩

end Router
end EventRouting
