import EventRouting.Evaluation.Evaluate

set_option autoImplicit false

namespace EventRouting

abbrev Memory (α : Type) := List (String × α)

def memoryLimit : Nat := 1024

namespace Memory

variable {α ε : Type}

def remember (memory : Memory α) (text : String) (a : α) : Memory α :=
  if memory.length < memoryLimit then (text, a) :: memory else memory

/-- Looks a text up, or computes what belongs to it and remembers that. Failures are not
remembered. -/
def fetch (compute : String → Except ε α) (text : String) : StateM (Memory α) (Except ε α) :=
  fun memory =>
    match memory.lookup text with
    | some a => (.ok a, memory)
    | none =>
      match compute text with
      | .ok a => (.ok a, memory.remember text a)
      | .error e => (.error e, memory)

end Memory

structure Evaluator (engine : PatternEngine) where
  patterns : Memory engine.Compiled

namespace Evaluator

variable {engine : PatternEngine}

def new : Evaluator engine := ⟨[]⟩

def evaluate (ev : Evaluator engine) (e : Expr) (event : Event) :
    Except EvalError Value × Evaluator engine :=
  let (result, patterns) :=
    (e.evalWith (m := StateM (Memory engine.Compiled)) (Memory.fetch engine.compile) event).run
      ev.patterns
  (result, ⟨patterns⟩)

def evaluateConditional (ev : Evaluator engine) (e : Expr) (event : Event) :
    Except EvalError Bool × Evaluator engine :=
  let (result, ev) := ev.evaluate e event
  (result >>= Value.condition, ev)

end Evaluator
end EventRouting
