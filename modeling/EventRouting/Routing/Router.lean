import EventRouting.Evaluation.Evaluator
import EventRouting.Statement.Compile

set_option autoImplicit false

/-!
# Routers

A router sends each record of a batch to every route whose condition the record's event meets.
Routes with the same condition text share one compiled predicate, which is evaluated once for
each record. A condition that fails for a record leaves the record out of its routes and is
reported.
-/
namespace EventRouting

structure Route where
  name : String
  condition : String
deriving DecidableEq, Repr, Inhabited

inductive RouterError
  | invalidCondition (route : String) (error : CompileError)
  | duplicateRoute (route : String)
deriving DecidableEq

def RouterError.message? : RouterError → Option String
  | .invalidCondition route error =>
    error.message?.map ("Route '" ++ route ++ "' has an invalid condition: " ++ ·)
  | .duplicateRoute route => some ("Route '" ++ route ++ "' is defined more than once")

structure PredicateGroup where
  statement : Statement
  routes : List Nat

structure Router (engine : PatternEngine) where
  /-- The names of the routes as they were given. -/
  names : List String
  predicates : List PredicateGroup
  evaluator : Evaluator engine

structure RouteFailure where
  route : String
  /-- The place of the record in its batch. -/
  record : Nat
  error : EvalError
deriving DecidableEq

/-- The outcome of a batch: the records of each route in the order of the batch, the routes in
ascending order of their names, and the failures. -/
structure RoutedRecords (ρ : Type) where
  routes : List (String × List ρ)
  failures : List RouteFailure

namespace RoutedRecords

variable {ρ : Type}

def get? (routed : RoutedRecords ρ) (route : String) : Option (List ρ) :=
  Fields.get? route routed.routes

def hasFailures (routed : RoutedRecords ρ) : Bool := !routed.failures.isEmpty

end RoutedRecords

namespace Router

variable {engine : PatternEngine}

def joinGroup? (condition : String) (index : Nat) :
    List PredicateGroup → Option (List PredicateGroup)
  | [] => none
  | group :: rest =>
    if group.statement.text = condition then
      some ({ group with routes := group.routes ++ [index] } :: rest)
    else (joinGroup? condition index rest).map (group :: ·)

/-- Adds a route behind those added before. Its condition is compiled unless a route before it
has the same. -/
def addRoute (r : Router engine) (route : Route) : Except RouterError (Router engine) :=
  if r.names.contains route.name then .error (.duplicateRoute route.name)
  else
    let index := r.names.length
    match joinGroup? route.condition index r.predicates with
    | some predicates => .ok { r with names := r.names ++ [route.name], predicates }
    | none =>
      match Statement.compile route.condition with
      | .error error => .error (.invalidCondition route.name error)
      | .ok statement =>
        .ok { r with
          names := r.names ++ [route.name]
          predicates := r.predicates ++ [⟨statement, [index]⟩] }

def build (engine : PatternEngine) (routes : List Route) : Except RouterError (Router engine) :=
  routes.foldlM addRoute ⟨[], [], .new⟩

def predicateCount (r : Router engine) : Nat := r.predicates.length

def verdicts (event : Event) :
    List PredicateGroup → Evaluator engine → List (Except EvalError Bool) × Evaluator engine
  | [], ev => ([], ev)
  | group :: rest, ev =>
    let (verdict, ev) := ev.evaluateConditional group.statement.expr event
    let (others, ev) := verdicts event rest ev
    (verdict :: others, ev)

def verdictTable (predicates : List PredicateGroup) :
    List Event → Evaluator engine → List (List (Except EvalError Bool)) × Evaluator engine
  | [], ev => ([], ev)
  | event :: rest, ev =>
    let (row, ev) := verdicts event predicates ev
    let (others, ev) := verdictTable predicates rest ev
    (row :: others, ev)

end Router

/-- What was gathered from a batch so far: the records of each route, at the route's index, and the
failures. -/
structure Gathered (ρ : Type) where
  received : List (List ρ)
  failures : List RouteFailure

namespace Gathered

variable {ρ : Type}

def push (record : ρ) (received : List (List ρ)) (route : Nat) : List (List ρ) :=
  received.modify route (· ++ [record])

/-- Takes up what a predicate says of a record. If it holds, the record is pushed to each route of
its group, and if it fails, each of them has a failure. -/
def addVerdict (names : List String) (index : Nat) (record : ρ) (gathered : Gathered ρ) :
    PredicateGroup × Except EvalError Bool → Gathered ρ
  | (group, .ok true) =>
    { gathered with received := group.routes.foldl (push record) gathered.received }
  | (_, .ok false) => gathered
  | (group, .error error) =>
    let report failures route := failures ++ [⟨names.getD route "", index, error⟩]
    { gathered with failures := group.routes.foldl report gathered.failures }

def addRow (names : List String) (predicates : List PredicateGroup) (gathered : Gathered ρ) :
    (ρ × List (Except EvalError Bool)) × Nat → Gathered ρ
  | ((record, row), index) => (predicates.zip row).foldl (addVerdict names index record) gathered

end Gathered

/-- Sends the records of a batch to the routes. The router that is answered remembers the
patterns that were compiled. -/
def Router.route {engine : PatternEngine} {ρ : Type} (r : Router engine) (event : ρ → Event)
    (records : List ρ) : RoutedRecords ρ × Router engine :=
  let (table, evaluator) := verdictTable r.predicates (records.map event) r.evaluator
  let gathered := (records.zip table).zipIdx.foldl (Gathered.addRow r.names r.predicates)
    ⟨r.names.map fun _ => [], []⟩
  (⟨Fields.ofList (r.names.zip gathered.received), gathered.failures⟩, { r with evaluator })

end EventRouting
