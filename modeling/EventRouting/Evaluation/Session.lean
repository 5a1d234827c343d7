import EventRouting.Evaluation.Evaluator
import EventRouting.Statement.Compile

set_option autoImplicit false

namespace EventRouting

inductive StatementError
  | compile (error : CompileError)
  | eval (error : EvalError)
deriving DecidableEq

structure Session (engine : PatternEngine) where
  evaluator : Evaluator engine
  statements : Memory Statement

namespace Session

variable {engine : PatternEngine}

def new : Session engine := ⟨.new, []⟩

def cachedStatements (s : Session engine) : Nat := s.statements.length

def compile (s : Session engine) (text : String) :
    Except CompileError Statement × Session engine :=
  let (result, statements) := (Memory.fetch Statement.compile text).run s.statements
  (result, { s with statements })

def run {α : Type} (s : Session engine)
    (how : Evaluator engine → Expr → Event → Except EvalError α × Evaluator engine)
    (text : String) (event : Event) : Except StatementError α × Session engine :=
  match s.compile text with
  | (.error e, s) => (.error (.compile e), s)
  | (.ok statement, s) =>
    let (result, evaluator) := how s.evaluator statement.expr event
    (result.mapError .eval, { s with evaluator })

def evaluate (s : Session engine) (text : String) (event : Event) :
    Except StatementError Bool × Session engine :=
  s.run Evaluator.evaluateConditional text event

def evaluateValue (s : Session engine) (text : String) (event : Event) :
    Except StatementError Value × Session engine :=
  s.run Evaluator.evaluate text event

end Session
end EventRouting
