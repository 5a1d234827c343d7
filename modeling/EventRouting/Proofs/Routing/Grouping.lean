import EventRouting.Proofs.Evaluation.Memory
import EventRouting.Proofs.Fallible
import EventRouting.Proofs.Occurrences
import EventRouting.Proofs.Statement.Compiling
import EventRouting.Routing.Router

set_option autoImplicit false

namespace EventRouting

namespace Route

/-- The condition texts of some routes, each once, in the order in which they first occur. -/
def conditions (routes : List Route) : List String := (routes.map (·.condition)).eraseDups

def indices (routes : List Route) (condition : String) : List Nat :=
  (routes.zipIdx.filter fun (route, _) => route.condition = condition).map (·.2)

theorem conditions_concat (routes : List Route) (route : Route) :
    conditions (routes ++ [route]) =
      if route.condition ∈ conditions routes then conditions routes
      else conditions routes ++ [route.condition] := by
  simp only [conditions, List.map_append, List.map_singleton,
    Occurrences.eraseDups_concat, List.mem_eraseDups]

theorem conditions_nodup (routes : List Route) : (conditions routes).Nodup :=
  (Occurrences.eraseDups_in_order _).imp fun hlt heq => by
    rw [heq] at hlt
    exact Nat.lt_irrefl _ hlt

theorem indices_concat (routes : List Route) (route : Route) (condition : String) :
    indices (routes ++ [route]) condition =
      indices routes condition ++
        if route.condition = condition then [routes.length] else [] := by
  simp only [indices, List.zipIdx_append, List.filter_append, List.map_append]
  split <;> simp_all

theorem mem_indices {routes : List Route} {condition : String} {i : Nat} :
    i ∈ indices routes condition ↔
      ∃ route, routes[i]? = some route ∧ route.condition = condition := by
  simp only [indices, List.mem_map, List.mem_filter, decide_eq_true_eq, Prod.exists,
    exists_eq_right, List.mem_zipIdx_iff_getElem?]

theorem zipIdx_ascending {α : Type} (items : List α) :
    items.zipIdx.Pairwise fun a b => a.2 < b.2 := by
  have hindices : (items.zipIdx.map (·.2)).Pairwise (· < ·) := by
    rw [List.zipIdx_map_snd]
    exact List.pairwise_lt_range'
  exact List.pairwise_map.1 hindices

theorem indices_ascending (routes : List Route) (condition : String) :
    (indices routes condition).Pairwise (· < ·) :=
  ((zipIdx_ascending routes).filter _).map _ fun _ _ h => h

theorem indices_of_new {routes : List Route} {condition : String}
    (h : condition ∉ conditions routes) : indices routes condition = [] := by
  rw [conditions, List.mem_eraseDups] at h
  simp only [indices, List.map_eq_nil_iff, List.filter_eq_nil_iff, decide_eq_true_eq]
  rintro ⟨route, i⟩ hroute rfl
  exact h (List.mem_map_of_mem (List.fst_mem_of_mem_zipIdx hroute))

end Route

namespace Router

/-- One group for each condition text of some routes, with the indices of its routes. -/
structure Groups (routes : List Route) (groups : List PredicateGroup) : Prop where
  texts : groups.map (·.statement.text) = Route.conditions routes
  compiled : ∀ group ∈ groups, Statement.compile group.statement.text = .ok group.statement
  indices : ∀ group ∈ groups, group.routes = Route.indices routes group.statement.text

/-- What is known of a router for these routes, however many batches it has routed. -/
structure Serves {engine : PatternEngine} (routes : List Route) (r : Router engine) : Prop where
  names : r.names = routes.map (·.name)
  nodup : r.names.Nodup
  groups : Groups routes r.predicates
  faithful : r.evaluator.Faithful

def extend (condition : String) (index : Nat) (group : PredicateGroup) : PredicateGroup :=
  if group.statement.text = condition then { group with routes := group.routes ++ [index] }
  else group

theorem joinGroup?_eq_none {condition : String} {index : Nat} {groups : List PredicateGroup}
    (h : joinGroup? condition index groups = none) :
    condition ∉ groups.map (·.statement.text) := by
  induction groups with
  | nil => simp
  | cons group rest ih =>
    unfold joinGroup? at h
    split at h
    · cases h
    · rename_i hne
      simp only [List.map_cons, List.mem_cons, not_or]
      exact ⟨Ne.symm hne, ih (Option.map_eq_none_iff.1 h)⟩

theorem extend_of_ne {condition : String} {index : Nat} {group : PredicateGroup}
    (h : group.statement.text ≠ condition) : extend condition index group = group :=
  if_neg h

theorem joinGroup?_eq_some {condition : String} {index : Nat}
    {groups groups' : List PredicateGroup} (hnodup : (groups.map (·.statement.text)).Nodup)
    (h : joinGroup? condition index groups = some groups') :
    groups' = groups.map (extend condition index) ∧ condition ∈ groups.map (·.statement.text) := by
  induction groups generalizing groups' with
  | nil => cases h
  | cons group rest ih =>
    obtain ⟨hfresh, hrest⟩ := List.nodup_cons.1 hnodup
    unfold joinGroup? at h
    split at h
    · rename_i heq
      cases h
      have hsame : rest.map (extend condition index) = rest := by
        refine (List.map_congr_left fun other hother => ?_).trans (List.map_id _)
        refine extend_of_ne fun hother' => hfresh ?_
        exact List.mem_map.2 ⟨other, hother, hother'.trans heq.symm⟩
      refine ⟨?_, by simp [heq]⟩
      rw [List.map_cons, hsame, extend, if_pos heq]
    · rename_i hne
      obtain ⟨others, hothers, rfl⟩ := Option.map_eq_some_iff.1 h
      obtain ⟨rfl, hmem⟩ := ih hrest hothers
      exact ⟨by rw [List.map_cons, extend_of_ne hne], List.mem_cons_of_mem _ hmem⟩

theorem addRoute_eq_ok {engine : PatternEngine} {r r' : Router engine} {route : Route}
    (h : r.addRoute route = .ok r') :
    route.name ∉ r.names ∧
      ((∃ predicates, joinGroup? route.condition r.names.length r.predicates = some predicates ∧
          r' = { r with names := r.names ++ [route.name], predicates }) ∨
        (joinGroup? route.condition r.names.length r.predicates = none ∧
          ∃ statement, Statement.compile route.condition = .ok statement ∧
            r' = { r with
              names := r.names ++ [route.name]
              predicates := r.predicates ++ [⟨statement, [r.names.length]⟩] })) := by
  unfold addRoute at h
  split at h
  · cases h
  · rename_i hfresh
    refine ⟨by simpa using hfresh, ?_⟩
    cases hjoin : joinGroup? route.condition r.names.length r.predicates with
    | some predicates =>
      simp only [hjoin] at h
      cases h
      exact .inl ⟨predicates, rfl, rfl⟩
    | none =>
      simp only [hjoin] at h
      split at h
      · cases h
      · rename_i statement hcompile
        cases h
        exact .inr ⟨rfl, statement, hcompile, rfl⟩

theorem extend_statement (condition : String) (index : Nat) (group : PredicateGroup) :
    (extend condition index group).statement = group.statement := by
  unfold extend
  split <;> rfl

namespace Groups

variable {routes : List Route} {groups : List PredicateGroup} {route : Route}

theorem nil : Groups [] [] :=
  ⟨rfl, by simp, by simp⟩

theorem join (h : Groups routes groups) {groups' : List PredicateGroup}
    (hjoin : joinGroup? route.condition routes.length groups = some groups') :
    Groups (routes ++ [route]) groups' := by
  have htexts : (groups.map (·.statement.text)).Nodup := h.texts ▸ Route.conditions_nodup routes
  obtain ⟨rfl, hmem⟩ := joinGroup?_eq_some htexts hjoin
  rw [h.texts] at hmem
  refine ⟨?_, ?_, ?_⟩
  · simp only [List.map_map, Function.comp_def, extend_statement]
    rw [h.texts, Route.conditions_concat, if_pos hmem]
  · intro _ hextended
    obtain ⟨group, hgroup, rfl⟩ := List.mem_map.1 hextended
    rw [extend_statement]
    exact h.compiled group hgroup
  · intro _ hextended
    obtain ⟨group, hgroup, rfl⟩ := List.mem_map.1 hextended
    rw [extend_statement, Route.indices_concat, ← h.indices group hgroup]
    unfold extend
    by_cases heq : group.statement.text = route.condition
    · rw [if_pos heq, if_pos heq.symm]
    · rw [if_neg heq, if_neg (Ne.symm heq), List.append_nil]

theorem begin (h : Groups routes groups) {statement : Statement}
    (hnone : joinGroup? route.condition routes.length groups = none)
    (hcompile : Statement.compile route.condition = .ok statement) :
    Groups (routes ++ [route]) (groups ++ [⟨statement, [routes.length]⟩]) := by
  have hnew := joinGroup?_eq_none hnone
  rw [h.texts] at hnew
  have htext := Statement.text_of_compile hcompile
  refine ⟨?_, ?_, ?_⟩
  · rw [List.map_append, h.texts, Route.conditions_concat, if_neg hnew, List.map_singleton, htext]
  · intro group hgroup
    rcases List.mem_append.1 hgroup with hgroup | hgroup
    · exact h.compiled group hgroup
    · obtain rfl := List.mem_singleton.1 hgroup
      rw [htext]
      exact hcompile
  · intro group hgroup
    rw [Route.indices_concat]
    rcases List.mem_append.1 hgroup with hgroup | hgroup
    · have hne : route.condition ≠ group.statement.text := fun heq =>
        hnew (h.texts ▸ heq ▸ List.mem_map_of_mem hgroup)
      rw [← h.indices group hgroup, if_neg hne, List.append_nil]
    · obtain rfl := List.mem_singleton.1 hgroup
      rw [htext, Route.indices_of_new hnew, if_pos rfl]
      rfl

end Groups

namespace Serves

variable {engine : PatternEngine}

theorem nil : Serves [] (⟨[], [], .new⟩ : Router engine) :=
  ⟨rfl, List.nodup_nil, .nil, Evaluator.faithful_new⟩

theorem addRoute {routes : List Route} {r r' : Router engine} (h : Serves routes r) {route : Route}
    (hadd : r.addRoute route = .ok r') : Serves (routes ++ [route]) r' := by
  obtain ⟨hfresh, hadd⟩ := addRoute_eq_ok hadd
  have hnames : r.names ++ [route.name] = (routes ++ [route]).map (·.name) := by
    rw [h.names, List.map_append, List.map_singleton]
  have hnodup : (r.names ++ [route.name]).Nodup := by
    refine List.nodup_append.2 ⟨h.nodup, by simp, fun name hname other hother heq => ?_⟩
    rw [List.mem_singleton] at hother
    exact hfresh (hother ▸ heq ▸ hname)
  have hlength : r.names.length = routes.length := by rw [h.names, List.length_map]
  rw [hlength] at hadd
  rcases hadd with ⟨predicates, hjoin, rfl⟩ | ⟨hnone, statement, hcompile, rfl⟩
  · exact ⟨hnames, hnodup, h.groups.join hjoin, h.faithful⟩
  · exact ⟨hnames, hnodup, h.groups.begin hnone hcompile, h.faithful⟩

theorem foldlM {routes more : List Route} {r r' : Router engine} (h : Serves routes r)
    (hadd : more.foldlM Router.addRoute r = .ok r') : Serves (routes ++ more) r' := by
  induction more generalizing routes r with
  | nil =>
    obtain rfl : r = r' := by simpa using hadd
    rwa [List.append_nil]
  | cons route more ih =>
    rw [List.foldlM_cons] at hadd
    obtain ⟨middle, hfirst, hrest⟩ := Fallible.bind_eq_ok_iff.1 hadd
    rw [List.append_cons]
    exact ih (h.addRoute hfirst) hrest

section

variable {routes : List Route} {r : Router engine} (h : Serves routes r)

include h

theorem compile_eq {group : PredicateGroup} (hgroup : group ∈ r.predicates) {i : Nat}
    (hi : i ∈ group.routes) :
    ∃ route, routes[i]? = some route ∧ route.condition = group.statement.text ∧
      Statement.compile route.condition = .ok group.statement := by
  rw [h.groups.indices group hgroup] at hi
  obtain ⟨route, hroute, hcondition⟩ := Route.mem_indices.1 hi
  exact ⟨route, hroute, hcondition, hcondition ▸ h.groups.compiled group hgroup⟩

theorem group_of_route {i : Nat} {route : Route} (hroute : routes[i]? = some route) :
    ∃ group ∈ r.predicates, i ∈ group.routes ∧
      Statement.compile route.condition = .ok group.statement := by
  have hmem : route.condition ∈ r.predicates.map (·.statement.text) := by
    rw [h.groups.texts, Route.conditions, List.mem_eraseDups]
    exact List.mem_map_of_mem (List.mem_of_getElem? hroute)
  obtain ⟨group, hgroup, htext⟩ := List.mem_map.1 hmem
  refine ⟨group, hgroup, ?_, htext ▸ h.groups.compiled group hgroup⟩
  rw [h.groups.indices group hgroup]
  exact Route.mem_indices.2 ⟨route, hroute, htext.symm⟩

theorem texts_nodup : (r.predicates.map (·.statement.text)).Nodup :=
  h.groups.texts ▸ Route.conditions_nodup routes

theorem group_nodup {group : PredicateGroup} (hgroup : group ∈ r.predicates) :
    group.routes.Nodup := by
  rw [h.groups.indices group hgroup]
  exact (Route.indices_ascending routes _).imp Nat.ne_of_lt

/-- Groups of different texts have no place in common. -/
theorem groups_disjoint : r.predicates.Pairwise fun a b => List.Disjoint a.routes b.routes := by
  refine (List.pairwise_map.1 h.texts_nodup).imp_of_mem fun ha hb hne i hi hi' => hne ?_
  obtain ⟨route, hroute, hcondition, -⟩ := h.compile_eq ha hi
  obtain ⟨route', hroute', hcondition', -⟩ := h.compile_eq hb hi'
  obtain rfl : route = route' := Option.some.inj (hroute.symm.trans hroute')
  exact hcondition.symm.trans hcondition'

end

end Serves

theorem build_serves {engine : PatternEngine} {routes : List Route} {r : Router engine}
    (h : build engine routes = .ok r) :
    Serves routes r :=
  Serves.nil.foldlM h

end Router
end EventRouting
