import EventRouting.Statement.Expr
import EventRouting.Text.Quoted

set_option autoImplicit false

namespace EventRouting

inductive TypeFault
  /-- A statement whose value is no boolean. -/
  | statement (got : String)
  | logicOperand (operator got : String)
  | comparison (left : String) (op : Operator) (right : String)
  /-- Two numbers of which one is NaN, as messages show them. -/
  | unordered (left right : String)
  | membership (op : Operator) (got : String)
  | matching (op : Operator) (left right : String)
deriving DecidableEq

def TypeFault.message : TypeFault → String
  | .statement got => "Statement must evaluate to a boolean, got " ++ got
  | .logicOperand operator got => "Operand of '" ++ operator ++ "' must be a boolean, got " ++ got
  | .comparison left op right =>
    "Cannot compare " ++ left ++ " " ++ op.symbol ++ " " ++ right
      ++ " (comparison requires numeric types)"
  | .unordered left right => "Cannot order " ++ left ++ " and " ++ right
  | .membership op got => "Right operand of '" ++ op.symbol ++ "' must be a list, got " ++ got
  | .matching op left right =>
    "Cannot apply " ++ op.symbol ++ " to " ++ left ++ " and " ++ right
      ++ " (regex matching requires a string and a pattern string)"

inductive EvalError
  | typeCoercion (fault : TypeFault)
  | patternCompilation (pattern message : String)
  /-- An operator that cannot be applied to two values that are both evaluated. -/
  | unsupportedOperation (op : Operator)
deriving DecidableEq

def EvalError.message : EvalError → String
  | .typeCoercion fault => "Type coercion error: " ++ fault.message
  | .patternCompilation pattern message =>
    "Invalid regex pattern " ++ Text.quote pattern ++ ": " ++ message
  | .unsupportedOperation op =>
    "Unsupported operation: '" ++ op.symbol ++ "' must be evaluated with short-circuiting"

end EventRouting
