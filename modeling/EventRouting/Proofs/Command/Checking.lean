import EventRouting.Command.Check
import EventRouting.Proofs.Evaluation.Memory
import EventRouting.Proofs.Fallible

set_option autoImplicit false

namespace EventRouting

abbrev CheckOutcome := Except CommandError CheckResult

def checkLine (engine : PatternEngine) (reader : JsonReader) (tree : Bool)
    (condition line : String) : CheckOutcome :=
  executeCheck engine reader
    { statement := condition, input := some line, syntaxOnly := false, tree }

namespace CheckOutcome

def Yields (outcome : CheckOutcome) (result : Json) : Prop :=
  ∃ tree, outcome = .ok (.success result tree)

/-- The statement can be no condition for the event: it has no value, or none that is boolean. -/
def Fails (outcome : CheckOutcome) : Prop :=
  (∃ error, outcome = .error (.eval error)) ∨
    ∃ result, outcome.Yields result ∧ ∀ b, result ≠ .boolean b

end CheckOutcome

namespace Value

variable {v : Value}

theorem toJson_eq_boolean_iff {b : Bool} : v.toJson = .boolean b ↔ v.condition = .ok b := by
  cases v with
  | float x => cases x <;> simp [toJson, condition, toBool?]
  | _ => simp [toJson, condition, toBool?]

theorem condition_eq_error_iff :
    (∃ error, v.condition = .error error) ↔ ∀ b, v.toJson ≠ .boolean b := by
  simp only [ne_eq, toJson_eq_boolean_iff]
  cases v.condition <;> simp

end Value

section

variable {engine : PatternEngine} {reader : JsonReader} {condition line : String}
  {statement : Statement} {event : Event} (hcompile : Statement.compile condition = .ok statement)
  (hline : reader.event line = .ok event) (tree : Bool)

include hcompile hline

theorem checkLine_eq : checkLine engine reader tree condition line =
    ((statement.expr.eval engine event).mapError .eval).map fun v =>
      .success v.toJson (if tree then some statement.expr.toOutline else none) := by
  have hvalue := Evaluator.evaluate_eq (@Evaluator.faithful_new engine) statement.expr event
  unfold checkLine executeCheck
  rw [hcompile]
  simp only [Fallible.mapError_ok, Fallible.ok_bind, Bool.false_eq_true, if_false, hline, hvalue]
  cases statement.expr.eval engine event <;> rfl

theorem checkLine_yields_iff {result : Json} :
    (checkLine engine reader tree condition line).Yields result ↔
      ∃ v, statement.expr.eval engine event = .ok v ∧ v.toJson = result := by
  rw [CheckOutcome.Yields, checkLine_eq hcompile hline]
  cases statement.expr.eval engine event <;> simp

theorem checkLine_eq_error_iff {error : EvalError} :
    checkLine engine reader tree condition line = .error (.eval error) ↔
      statement.expr.eval engine event = .error error := by
  rw [checkLine_eq hcompile hline]
  cases statement.expr.eval engine event <;> simp

theorem checkLine_yields_boolean_iff {b : Bool} :
    (checkLine engine reader tree condition line).Yields (.boolean b) ↔
      statement.expr.holds engine event = .ok b := by
  rw [checkLine_yields_iff hcompile hline, Expr.holds, Fallible.bind_eq_ok_iff]
  simp only [Value.toJson_eq_boolean_iff]

theorem checkLine_fails_iff :
    (checkLine engine reader tree condition line).Fails ↔
      ∃ error, statement.expr.holds engine event = .error error := by
  simp only [CheckOutcome.Fails, checkLine_eq_error_iff hcompile hline,
    checkLine_yields_iff hcompile hline, Expr.holds]
  cases statement.expr.eval engine event with
  | error e => simp
  | ok v => simp [Value.condition_eq_error_iff]

end

end EventRouting
