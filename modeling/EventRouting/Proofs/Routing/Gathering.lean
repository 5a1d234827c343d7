import Mathlib.Data.List.Nodup
import EventRouting.Proofs.Routing.Grouping

set_option autoImplicit false

/-!
# What a batch gathers

The loop over a batch pushes a record to a route once for every place that the route has in the
groups whose predicate holds. The groups of a router share its routes out, so that is at most once,
and a route receives a filtered batch.
-/
namespace EventRouting

namespace Router

variable {engine : PatternEngine}

theorem verdicts_eq (event : Event) (groups : List PredicateGroup) {ev : Evaluator engine}
    (h : ev.Faithful) :
    (verdicts event groups ev).1 = groups.map (·.statement.expr.holds engine event) ∧
      (verdicts event groups ev).2.Faithful := by
  induction groups generalizing ev with
  | nil => exact ⟨rfl, h⟩
  | cons group rest ih =>
    obtain ⟨hothers, hfaithful⟩ :=
      ih (Evaluator.Faithful.evaluateConditional h group.statement.expr event)
    refine ⟨?_, hfaithful⟩
    have hverdict := Evaluator.evaluateConditional_eq h group.statement.expr event
    rw [List.map_cons, ← hothers, ← hverdict]
    rfl

theorem verdictTable_eq (groups : List PredicateGroup) (events : List Event)
    {ev : Evaluator engine} (h : ev.Faithful) :
    (verdictTable groups events ev).1 =
        events.map (fun event => groups.map (·.statement.expr.holds engine event)) ∧
      (verdictTable groups events ev).2.Faithful := by
  induction events generalizing ev with
  | nil => exact ⟨rfl, h⟩
  | cons event rest ih =>
    obtain ⟨hrow, hnext⟩ := verdicts_eq event groups h
    obtain ⟨hothers, hfaithful⟩ := ih hnext
    refine ⟨?_, hfaithful⟩
    rw [List.map_cons, ← hrow, ← hothers]
    rfl

/-- The routes of the groups whose predicate holds for an event. -/
def receivers (engine : PatternEngine) (groups : List PredicateGroup) (event : Event) : List Nat :=
  (groups.filter fun group => group.statement.expr.holds engine event matches .ok true).flatMap
    (·.routes)

theorem mem_receivers {groups : List PredicateGroup} {event : Event} {i : Nat} :
    i ∈ receivers engine groups event ↔
      ∃ group ∈ groups, i ∈ group.routes ∧ group.statement.expr.holds engine event = .ok true := by
  simp only [receivers, List.mem_flatMap, List.mem_filter, and_assoc]
  refine exists_congr fun group => and_congr_right fun _ => ?_
  rw [and_comm]
  refine and_congr_right fun _ => ?_
  split <;> simp_all

def groupFailures (engine : PatternEngine) (names : List String) (record : Nat) (event : Event)
    (group : PredicateGroup) : List RouteFailure :=
  match group.statement.expr.holds engine event with
  | .ok _ => []
  | .error error => group.routes.map fun route => ⟨names.getD route "", record, error⟩

end Router

namespace Gathered

open Router

variable {engine : PatternEngine} {ρ : Type}

theorem length_foldl_push (record : ρ) (routes : List Nat) (received : List (List ρ)) :
    (routes.foldl (push record) received).length = received.length := by
  induction routes generalizing received with
  | nil => rfl
  | cons route routes ih => rw [List.foldl_cons, ih, push, List.length_modify]

theorem getElem?_foldl_push (record : ρ) (routes : List Nat) (received : List (List ρ)) (i : Nat) :
    (routes.foldl (push record) received)[i]? =
      received[i]?.map (· ++ List.replicate (routes.count i) record) := by
  induction routes generalizing received with
  | nil => simp
  | cons route routes ih =>
    rw [List.foldl_cons, ih, push, List.getElem?_modify, Option.map_eq_map, Option.map_map]
    congr 1
    funext records
    by_cases hroute : route = i
    · simp [hroute, List.replicate_succ]
    · simp [hroute]

theorem foldl_report (names : List String) (index : Nat) (error : EvalError) (routes : List Nat)
    (failures : List RouteFailure) :
    routes.foldl (fun failures route => failures ++ [⟨names.getD route "", index, error⟩])
      failures =
      failures ++ routes.map fun route => ⟨names.getD route "", index, error⟩ := by
  induction routes generalizing failures with
  | nil => simp
  | cons route routes ih => rw [List.foldl_cons, ih, List.map_cons, List.append_assoc]; rfl

/-- What is gathered from a state on: each route's records and the failures come behind those that
were there. -/
structure Extends (start : Gathered ρ) (pushed : Nat → List ρ) (failures : List RouteFailure)
    (gathered : Gathered ρ) : Prop where
  length : gathered.received.length = start.received.length
  received : ∀ i, gathered.received[i]? = start.received[i]?.map (· ++ pushed i)
  failures : gathered.failures = start.failures ++ failures

namespace Extends

variable {start middle gathered : Gathered ρ} {pushed pushed' : Nat → List ρ}
  {failures failures' : List RouteFailure}

theorem refl : Extends start (fun _ => []) [] start :=
  ⟨rfl, by simp, by simp⟩

theorem trans (h : Extends start pushed failures middle)
    (h' : Extends middle pushed' failures' gathered) :
    Extends start (fun i => pushed i ++ pushed' i) (failures ++ failures') gathered where
  length := h'.length.trans h.length
  received i := by
    rw [h'.received, h.received, Option.map_map]
    simp only [Function.comp_def, List.append_assoc]
  failures := by rw [h'.failures, h.failures, List.append_assoc]

end Extends

/-- One verdict: the record is pushed to the routes of its group, or they fail. -/
theorem addVerdict_extends (engine : PatternEngine) (names : List String) (index : Nat)
    (record : ρ) (start : Gathered ρ) (group : PredicateGroup) (event : Event) :
    Extends start
      (fun i => List.replicate ((receivers engine [group] event).count i) record)
      (groupFailures engine names index event group)
      (addVerdict names index record start (group, group.statement.expr.holds engine event)) := by
  unfold receivers groupFailures
  cases hverdict : group.statement.expr.holds engine event with
  | error error => exact ⟨rfl, by simp [addVerdict, hverdict], foldl_report names index error _ _⟩
  | ok b =>
    cases b with
    | false => exact ⟨rfl, by simp [addVerdict, hverdict], by simp [addVerdict]⟩
    | true =>
      refine ⟨length_foldl_push record _ _, fun i => ?_, by simp [addVerdict]⟩
      have hpushed := getElem?_foldl_push record group.routes start.received i
      simpa [addVerdict, hverdict] using hpushed

theorem addRow_extends (names : List String) (index : Nat) (record : ρ) (event : Event)
    (groups : List PredicateGroup) (start : Gathered ρ) :
    Extends start (fun i => List.replicate ((receivers engine groups event).count i) record)
      (groups.flatMap (groupFailures engine names index event))
      (addRow names groups start
        ((record, groups.map (·.statement.expr.holds engine event)), index)) := by
  induction groups generalizing start with
  | nil => exact .refl
  | cons group groups ih =>
    have hrow := (addVerdict_extends engine names index record start group event).trans (ih _)
    have hreceivers : receivers engine (group :: groups) event =
        receivers engine [group] event ++ receivers engine groups event := by
      rw [receivers, receivers, receivers, ← List.flatMap_append, ← List.filter_append]
      rfl
    -- A route that is in this group and in a later one is pushed to for each.
    simp only [← List.replicate_append_replicate, hreceivers, List.count_append,
      List.flatMap_cons]
    exact hrow

theorem foldl_addRow_extends (engine : PatternEngine) (names : List String)
    (groups : List PredicateGroup) (event : ρ → Event) (records : List ρ) (n : Nat)
    (start : Gathered ρ) :
    Extends start
      (fun i => records.flatMap fun record =>
        List.replicate ((receivers engine groups (event record)).count i) record)
      ((records.zipIdx n).flatMap fun (record, index) =>
        groups.flatMap (groupFailures engine names index (event record)))
      (((records.map fun record =>
          (record, groups.map (·.statement.expr.holds engine (event record)))).zipIdx n).foldl
        (addRow names groups) start) := by
  induction records generalizing n start with
  | nil => exact .refl
  | cons record records ih =>
    exact (addRow_extends names n record (event record) groups start).trans (ih (n + 1) _)

end Gathered

namespace Router

variable {engine : PatternEngine} {ρ : Type}

def receivedBy (engine : PatternEngine) (groups : List PredicateGroup) (event : ρ → Event)
    (records : List ρ) (i : Nat) : List ρ :=
  records.filter fun record => decide (i ∈ receivers engine groups (event record))

theorem flatMap_replicate_count {targets : ρ → List Nat} (h : ∀ record, (targets record).Nodup)
    (records : List ρ) (i : Nat) :
    (records.flatMap fun record => List.replicate ((targets record).count i) record) =
      records.filter fun record => decide (i ∈ targets record) := by
  induction records with
  | nil => rfl
  | cons record records ih =>
    rw [List.flatMap_cons, ih, List.filter_cons, (h record).count]
    split <;> simp_all

theorem zip_map {α β : Type} (f : α → β) (as : List α) :
    as.zip (as.map f) = as.map fun a => (a, f a) := by
  induction as with
  | nil => rfl
  | cons a as ih => rw [List.map_cons, List.zip_cons_cons, ih, List.map_cons]

theorem zip_eq_zipIdx_map {α β : Type} {as : List α} {bs : List β} {f : Nat → β}
    (hlength : bs.length = as.length) (h : ∀ i < as.length, bs[i]? = some (f i)) :
    as.zip bs = as.zipIdx.map fun (a, i) => (a, f i) := by
  refine List.ext_getElem? fun i => ?_
  by_cases hi : i < as.length
  · simp [List.getElem?_zip_eq_some, hi, h i hi]
  · simp [hlength, Nat.not_lt.1 hi]

namespace Serves

variable {routes : List Route} {r : Router engine} (h : Serves routes r)

include h

/-- A record goes to a route at most once, since no route is in two groups or twice in one. -/
theorem receivers_nodup (event : Event) : (receivers engine r.predicates event).Nodup :=
  List.nodup_flatMap.2 ⟨fun _ hgroup => h.group_nodup (List.mem_of_mem_filter hgroup),
    h.groups_disjoint.filter _⟩

/-- What a router answers, without the evaluator and the loop. -/
theorem route_eq (event : ρ → Event) (records : List ρ) :
    (r.route event records).1 =
      ⟨Fields.ofList (r.names.zipIdx.map fun (name, i) =>
          (name, receivedBy engine r.predicates event records i)),
        records.zipIdx.flatMap fun (record, i) =>
          r.predicates.flatMap (groupFailures engine r.names i (event record))⟩ := by
  have htable := (verdictTable_eq r.predicates (records.map event) h.faithful).1
  have hrun := Gathered.foldl_addRow_extends engine r.names r.predicates event records 0
    ⟨r.names.map fun _ => [], []⟩
  rw [← zip_map] at hrun
  show RoutedRecords.mk _ _ = _
  rw [htable, List.map_map, Function.comp_def, hrun.failures]
  congr 2
  refine zip_eq_zipIdx_map ?_ fun i hi => ?_
  · rw [hrun.length, List.length_map]
  · rw [hrun.received, List.getElem?_map, List.getElem?_eq_getElem hi,
      flatMap_replicate_count fun record => h.receivers_nodup (event record)]
    rfl

end Serves

end Router
end EventRouting
