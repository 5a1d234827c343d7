import Mathlib.Data.Finset.Card
import Mathlib.Data.Nat.Find
import EventRouting.Proofs.Routing.Filtering

set_option autoImplicit false

namespace EventRouting

namespace Route

def namesBefore (routes : List Route) (i : Nat) : List String := (routes.take i).map (·.name)

/-- At this place stands a route with a name that was given before, or with a condition that does
not compile. -/
def Offends (routes : List Route) (i : Nat) : Prop :=
  ∃ route, routes[i]? = some route ∧ (route.name ∈ namesBefore routes i ∨
    ∃ error, Statement.compile route.condition = .error error)

/-- The error of the first route that offends. A name that was given before counts first. -/
def FirstFault (routes : List Route) (fault : RouterError) : Prop :=
  ∃ i route, routes[i]? = some route ∧ (∀ j < i, ¬Offends routes j) ∧
    (route.name ∈ namesBefore routes i ∧ fault = .duplicateRoute route.name ∨
      route.name ∉ namesBefore routes i ∧ ∃ error,
        Statement.compile route.condition = .error error ∧
          fault = .invalidCondition route.name error)

theorem take_succ {routes : List Route} {i : Nat} {route : Route} (h : routes[i]? = some route) :
    routes.take (i + 1) = routes.take i ++ [route] := by
  rw [List.take_add_one, h]
  rfl

end Route

namespace Router

open Fallible

/-- The groups of a router share out the places of its routes by their conditions. -/
structure SharesOut {engine : PatternEngine} (routes : List Route) (r : Router engine) :
    Prop where
  names : r.names = routes.map (·.name)
  count : r.predicateCount = (routes.map (·.condition)).toFinset.card
  /-- Every place is in exactly one group, and there once. -/
  partition : (r.predicates.flatMap (·.routes)).Perm (List.range routes.length)
  inhabited : ∀ group ∈ r.predicates, group.routes ≠ []
  ascending : ∀ group ∈ r.predicates, group.routes.Pairwise (· < ·)
  conditions : ∀ group ∈ r.predicates, ∀ i ∈ group.routes, ∃ route,
    routes[i]? = some route ∧ route.condition = group.statement.text
  distinct : (r.predicates.map (·.statement.text)).Nodup
  compiled : ∀ group ∈ r.predicates,
    Statement.compile group.statement.text = .ok group.statement

variable {engine : PatternEngine}

namespace Serves

variable {routes : List Route} {r : Router engine} (h : Serves routes r) {route : Route}

include h

theorem addRoute_duplicate (hname : route.name ∈ routes.map (·.name)) :
    r.addRoute route = .error (.duplicateRoute route.name) := by
  have hcontains : r.names.contains route.name = true := by
    rw [h.names]
    exact List.contains_iff_mem.2 hname
  rw [Router.addRoute, if_pos hcontains]

theorem contains_fresh (hfresh : route.name ∉ routes.map (·.name)) :
    ¬r.names.contains route.name = true := by
  rw [h.names]
  exact fun hcontains => hfresh (List.contains_iff_mem.1 hcontains)

theorem exists_compile_of_join {i : Nat} {groups : List PredicateGroup}
    (hjoin : joinGroup? route.condition i r.predicates = some groups) :
    ∃ statement, Statement.compile route.condition = .ok statement := by
  obtain ⟨group, hgroup, htext⟩ := List.mem_map.1 (joinGroup?_eq_some h.texts_nodup hjoin).2
  exact ⟨group.statement, htext ▸ h.groups.compiled group hgroup⟩

theorem addRoute_invalid (hfresh : route.name ∉ routes.map (·.name)) {error : CompileError}
    (hcompile : Statement.compile route.condition = .error error) :
    r.addRoute route = .error (.invalidCondition route.name error) := by
  rw [Router.addRoute, if_neg (h.contains_fresh hfresh)]
  cases hjoin : joinGroup? route.condition r.names.length r.predicates with
  | some groups =>
    obtain ⟨statement, hstatement⟩ := h.exists_compile_of_join hjoin
    rw [hcompile] at hstatement
    cases hstatement
  | none => simp only [hjoin, hcompile]

theorem exists_addRoute (hfresh : route.name ∉ routes.map (·.name)) {statement : Statement}
    (hcompile : Statement.compile route.condition = .ok statement) :
    ∃ r', r.addRoute route = .ok r' := by
  rw [Router.addRoute, if_neg (h.contains_fresh hfresh)]
  cases hjoin : joinGroup? route.condition r.names.length r.predicates with
  | some groups =>
    simp only [hjoin]
    exact ⟨_, rfl⟩
  | none =>
    simp only [hjoin, hcompile]
    exact ⟨_, rfl⟩

theorem partition :
    (r.predicates.flatMap (·.routes)).Perm (List.range routes.length) := by
  have hnodup : (r.predicates.flatMap (·.routes)).Nodup :=
    List.nodup_flatMap.2 ⟨fun group hgroup => h.group_nodup hgroup, h.groups_disjoint⟩
  refine (List.perm_ext_iff_of_nodup hnodup List.nodup_range).2 fun i => ?_
  rw [List.mem_flatMap, List.mem_range]
  constructor
  · rintro ⟨group, hgroup, hi⟩
    obtain ⟨route, hroute, -, -⟩ := h.compile_eq hgroup hi
    exact (List.getElem?_eq_some_iff.1 hroute).1
  · intro hi
    obtain ⟨group, hgroup, hmem, -⟩ := h.group_of_route (List.getElem?_eq_getElem hi)
    exact ⟨group, hgroup, hmem⟩

theorem predicateCount_eq : r.predicateCount = (routes.map (·.condition)).toFinset.card := by
  have hmem : (Route.conditions routes).toFinset = (routes.map (·.condition)).toFinset := by
    ext condition
    rw [List.mem_toFinset, List.mem_toFinset, Route.conditions, List.mem_eraseDups]
  rw [← hmem, List.toFinset_card_of_nodup (Route.conditions_nodup routes), ← h.groups.texts,
    List.length_map]
  rfl

theorem sharesOut : r.SharesOut routes where
  names := h.names
  count := h.predicateCount_eq
  partition := h.partition
  inhabited := by
    intro group hgroup
    have htext : group.statement.text ∈ Route.conditions routes :=
      h.groups.texts ▸ List.mem_map_of_mem hgroup
    rw [Route.conditions, List.mem_eraseDups] at htext
    obtain ⟨route, hroute, hcondition⟩ := List.mem_map.1 htext
    obtain ⟨i, hi⟩ := List.getElem?_of_mem hroute
    rw [h.groups.indices group hgroup]
    exact List.ne_nil_of_mem (Route.mem_indices.2 ⟨route, hi, hcondition⟩)
  ascending := by
    intro group hgroup
    rw [h.groups.indices group hgroup]
    exact Route.indices_ascending routes _
  conditions := by
    intro group hgroup i hi
    obtain ⟨route, hroute, hcondition, -⟩ := h.compile_eq hgroup hi
    exact ⟨route, hroute, hcondition⟩
  distinct := h.texts_nodup
  compiled := h.groups.compiled

end Serves

theorem build_append (routes more : List Route) :
    build engine (routes ++ more) = build engine routes >>= fun r => more.foldlM addRoute r :=
  List.foldlM_append

theorem build_take {routes : List Route} {n : Nat} (hn : n ≤ routes.length)
    (h : ∀ i < n, ¬Route.Offends routes i) : ∃ r, build engine (routes.take n) = .ok r := by
  induction n with
  | zero => exact ⟨_, rfl⟩
  | succ n ih =>
    obtain ⟨r, hr⟩ := ih (Nat.le_of_succ_le hn) fun i hi => h i (Nat.lt_succ_of_lt hi)
    have hroute : routes[n]? = some routes[n] := List.getElem?_eq_getElem hn
    have hvalid := h n (Nat.lt_succ_self n)
    have hfresh : routes[n].name ∉ (routes.take n).map (·.name) := fun hname =>
      hvalid ⟨_, hroute, .inl hname⟩
    rw [Route.take_succ hroute, build_append, hr, ok_bind, List.foldlM_cons]
    cases hcompile : Statement.compile routes[n].condition with
    | error error => exact absurd ⟨_, hroute, .inr ⟨error, hcompile⟩⟩ hvalid
    | ok statement =>
      obtain ⟨r', hr'⟩ := (build_serves hr).exists_addRoute hfresh hcompile
      exact ⟨r', by rw [hr']; rfl⟩

theorem build_of_addRoute_error {routes : List Route} {i : Nat} {route : Route} {r : Router engine}
    {fault : RouterError} (hroute : routes[i]? = some route)
    (hr : build engine (routes.take i) = .ok r)
    (hfault : r.addRoute route = .error fault) : build engine routes = .error fault := by
  have hsplit : routes = routes.take i ++ route :: routes.drop (i + 1) := by
    rw [List.append_cons, ← Route.take_succ hroute, List.take_append_drop]
  rw [hsplit, build_append, hr, ok_bind, List.foldlM_cons, hfault]
  rfl

/-- Building fails with the error of the first route that offends. Where none does, it gives a
router that has the names in their order and groups that share out the routes by their
conditions. -/
theorem build_outcome (engine : PatternEngine) (routes : List Route) :
    ((∃ i, Route.Offends routes i) →
      ∃ fault, build engine routes = .error fault ∧ Route.FirstFault routes fault) ∧
    ((¬∃ i, Route.Offends routes i) → ∃ r, build engine routes = .ok r ∧ r.SharesOut routes) := by
  classical
  constructor
  · intro hoffends
    obtain ⟨route, hroute, hreason⟩ := Nat.find_spec hoffends
    have hbefore : ∀ j < Nat.find hoffends, ¬Route.Offends routes j := fun j =>
      Nat.find_min hoffends
    generalize Nat.find hoffends = i at hroute hreason hbefore
    have hi := (List.getElem?_eq_some_iff.1 hroute).1
    obtain ⟨r, hr⟩ := build_take (Nat.le_of_lt hi) hbefore
    have hserves := build_serves hr
    by_cases hname : route.name ∈ Route.namesBefore routes i
    · exact ⟨_, build_of_addRoute_error hroute hr (hserves.addRoute_duplicate hname),
        i, route, hroute, hbefore, .inl ⟨hname, rfl⟩⟩
    · obtain ⟨error, hcompile⟩ := hreason.resolve_left hname
      exact ⟨_, build_of_addRoute_error hroute hr (hserves.addRoute_invalid hname hcompile),
        i, route, hroute, hbefore, .inr ⟨hname, error, hcompile, rfl⟩⟩
  · intro hvalid
    obtain ⟨r, hr⟩ := build_take (Nat.le_refl _) fun i _ hoffends => hvalid ⟨i, hoffends⟩
    rw [List.take_length] at hr
    exact ⟨r, hr, (build_serves hr).sharesOut⟩

theorem build_outcome_faults :
    let early : List Route := [⟨"paid", "/paid"⟩, ⟨"all", "?"⟩, ⟨"paid", "true"⟩]
    let both : List Route := [⟨"paid", "/paid"⟩, ⟨"paid", "?"⟩]
    let valid : List Route := [⟨"paid", "/paid"⟩, ⟨"all", "true"⟩, ⟨"again", "/paid"⟩]
    let error : CompileError := ⟨"?", .lex (.unrecognized "?" ⟨0, 1, 1⟩)⟩
    ((∃ i, Route.Offends early i) ∧ build .plain early = .error (.invalidCondition "all" error) ∧
      Route.FirstFault early (.invalidCondition "all" error)) ∧
    ((∃ i, Route.Offends both i) ∧ build .plain both = .error (.duplicateRoute "paid") ∧
      Route.FirstFault both (.duplicateRoute "paid")) ∧
    (¬∃ i, Route.Offends valid i) ∧ ∃ r, build .plain valid = .ok r ∧ r.SharesOut valid := by
  intro early both valid error
  have hpaid : Statement.compile "/paid" = .ok ⟨"/paid", .pointer ⟨["paid"]⟩⟩ :=
    Statement.compile_canonical (e := .pointer ⟨["paid"]⟩) (List.cons_ne_nil _ _) (Nat.zero_le _)
  have htrue : Statement.compile "true" = .ok ⟨"true", .boolean true⟩ :=
    Statement.compile_canonical (e := .boolean true) trivial (Nat.zero_le _)
  have herror : Statement.compile "?" = .error error := by
    have htokenize : tokenize "?" = .error (.unrecognized "?" ⟨0, 1, 1⟩) := by decide +kernel
    rw [Statement.compile, Statement.exprOf, htokenize]
  have hearly : build .plain early = .error (.invalidCondition "all" error) := by
    simp [build, early, addRoute, joinGroup?, hpaid, herror]
  have hboth : build .plain both = .error (.duplicateRoute "paid") := by
    simp [build, both, addRoute, joinGroup?, hpaid]
  have hfirst {routes : List Route} {fault : RouterError} (hoffends : ∃ i, Route.Offends routes i)
      (hbuild : build .plain routes = .error fault) : Route.FirstFault routes fault := by
    obtain ⟨fault', hbuild', hfault⟩ := (build_outcome .plain routes).1 hoffends
    rw [hbuild] at hbuild'
    cases hbuild'
    exact hfault
  have hoffends : ∃ i, Route.Offends early i := ⟨1, _, rfl, .inr ⟨error, herror⟩⟩
  have hoffends' : ∃ i, Route.Offends both i := ⟨1, _, rfl, .inl List.mem_cons_self⟩
  have hvalid : ¬∃ i, Route.Offends valid i := by
    rintro ⟨i, route, hroute, hreason⟩
    have hlt : i < 3 := (List.getElem?_eq_some_iff.1 hroute).1
    have hi : i = 0 ∨ i = 1 ∨ i = 2 := by omega
    rcases hi with rfl | rfl | rfl <;> cases hroute <;>
      simp [Route.namesBefore, valid, hpaid, htrue] at hreason
  exact ⟨⟨hoffends, hearly, hfirst hoffends hearly⟩, ⟨hoffends', hboth, hfirst hoffends' hboth⟩,
    hvalid, (build_outcome .plain valid).2 hvalid⟩

end Router
end EventRouting
