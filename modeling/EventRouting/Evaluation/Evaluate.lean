import EventRouting.Evaluation.Operators
import EventRouting.Event

set_option autoImplicit false

/-!
# Evaluation

The value of an expression for an event. Pointers read the event, and a field that is not there
reads as null. Operands are evaluated from left to right, and the right operand of `and` and
`or` only if the left one does not decide. How patterns are compiled is a parameter, so that the
plain meaning and an evaluation that remembers compiled patterns are one definition.
-/
namespace EventRouting

namespace Expr

section

variable {m : Type → Type} [Monad m] {engine : PatternEngine}

mutual

/-- The value of an expression, patterns being compiled by `compile`. -/
def evalWith (compile : String → m (Except String engine.Compiled)) (event : Event) :
    Expr → ExceptT EvalError m Value
  | .float x => return .float x
  | .integer n => return .integer n
  | .string s => return .string s
  | .boolean b => return .boolean b
  | .null => return .null
  | .pointer p => return (event.get? p).getD .null
  | .list items => return .list (← evalItemsWith compile event items)
  | .not operand => do
    let b ← ((← evalWith compile event operand).requireBool "not" : Except _ _)
    return .boolean !b
  | .binary .and left right => do
    let b ← ((← evalWith compile event left).requireBool "and" : Except _ _)
    if b then return .boolean (← ((← evalWith compile event right).requireBool "and" : Except _ _))
    else return .boolean false
  | .binary .or left right => do
    let b ← ((← evalWith compile event left).requireBool "or" : Except _ _)
    if b then return .boolean true
    else return .boolean (← ((← evalWith compile event right).requireBool "or" : Except _ _))
  | .binary op left right => do
    let l ← evalWith compile event left
    let r ← evalWith compile event right
    return .boolean (← op.apply compile l r)

def evalItemsWith (compile : String → m (Except String engine.Compiled)) (event : Event) :
    List Expr → ExceptT EvalError m (List Value)
  | [] => return []
  | item :: rest => do
    let first ← evalWith compile event item
    return first :: (← evalItemsWith compile event rest)

end
end

def eval (engine : PatternEngine) (event : Event) (e : Expr) : Except EvalError Value :=
  e.evalWith (m := Id) engine.compile event

end Expr

namespace Value

def condition (v : Value) : Except EvalError Bool :=
  match v.toBool? with
  | some b => .ok b
  | none => .error (.typeCoercion (.statement v.typeName))

end Value

def Expr.holds (engine : PatternEngine) (event : Event) (e : Expr) : Except EvalError Bool :=
  e.eval engine event >>= Value.condition

end EventRouting
