import EventRouting.Decimal.Layout
import EventRouting.Evaluation.Error
import EventRouting.Evaluation.PatternEngine
import EventRouting.Value.Compare

set_option autoImplicit false

namespace EventRouting

namespace Value

def numberText : Value → String
  | .integer n => "Integer(" ++ Text.ofInt n.toInt ++ ")"
  | .float x => "Float(" ++ x.toText ++ ")"
  | v => v.typeName

def requireBool (operator : String) (v : Value) : Except EvalError Bool :=
  match v.toBool? with
  | some b => .ok b
  | none => .error (.typeCoercion (.logicOperand operator v.typeName))

def order (op : Operator) (left right : Value) : Except EvalError Ordering :=
  if !left.isNumeric || !right.isNumeric then
    .error (.typeCoercion (.comparison left.typeName op right.typeName))
  else
    match compareNumbers? left right with
    | some o => .ok o
    | none => .error (.typeCoercion (.unordered left.numberText right.numberText))

def isIn (op : Operator) (needle haystack : Value) : Except EvalError Bool :=
  match haystack with
  | .list items => .ok (items.any needle.equal)
  | other => .error (.typeCoercion (.membership op other.typeName))

end Value

section

variable {m : Type → Type} [Monad m] {engine : PatternEngine}

def matchPattern (compile : String → m (Except String engine.Compiled)) (op : Operator)
    (left right : Value) : ExceptT EvalError m Bool :=
  match left, right with
  | .string text, .string pattern => do
    match ← (compile pattern : m _) with
    | .ok compiled => return engine.isMatch compiled text
    | .error message => throw (.patternCompilation pattern message)
  | _, _ => throw (.typeCoercion (.matching op left.typeName right.typeName))

def Operator.apply (compile : String → m (Except String engine.Compiled)) (op : Operator)
    (left right : Value) : ExceptT EvalError m Bool :=
  match op with
  | .equal => return left.equal right
  | .notEqual => return !left.equal right
  | .less => return (← (left.order op right : Except _ _)).isLT
  | .greater => return (← (left.order op right : Except _ _)).isGT
  | .lessEqual => return (← (left.order op right : Except _ _)).isLE
  | .greaterEqual => return (← (left.order op right : Except _ _)).isGE
  | .matches => matchPattern compile op left right
  | .notMatches => return !(← matchPattern compile op left right)
  | .member => return ← (left.isIn op right : Except _ _)
  | .notMember => return !(← (left.isIn op right : Except _ _))
  | .and | .or => throw (.unsupportedOperation op)

end
end EventRouting
