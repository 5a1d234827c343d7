import EventRouting.Decimal.Binary64
import EventRouting.Pointer

set_option autoImplicit false

namespace EventRouting

inductive Operator
  | equal
  | notEqual
  | matches
  | notMatches
  | less
  | greater
  | lessEqual
  | greaterEqual
  | member
  | notMember
  | and
  | or
deriving DecidableEq, Repr

def Operator.symbol : Operator → String
  | .equal => "=="
  | .notEqual => "!="
  | .matches => "=~"
  | .notMatches => "!~"
  | .less => "<"
  | .greater => ">"
  | .lessEqual => "<="
  | .greaterEqual => ">="
  | .member => "in"
  | .notMember => "not in"
  | .and => "and"
  | .or => "or"

inductive Expr
  | float (value : Binary64)
  | integer (value : Int64)
  | string (value : String)
  | boolean (value : Bool)
  | null
  | pointer (value : Pointer)
  | list (items : List Expr)
  | not (operand : Expr)
  | binary (op : Operator) (left right : Expr)
deriving Inhabited

namespace Expr

def isLiteral : Expr → Bool
  | .float _ | .integer _ | .string _ | .boolean _ | .null => true
  | _ => false

mutual

def same : Expr → Expr → Bool
  | .float x, .float y => x.sameNumber y
  | .integer m, .integer n => m = n
  | .string s, .string t => s = t
  | .boolean a, .boolean b => a = b
  | .null, .null => true
  | .pointer p, .pointer q => p = q
  | .list xs, .list ys => sameAll xs ys
  | .not x, .not y => same x y
  | .binary f l r, .binary g l' r' => f = g && same l l' && same r r'
  | _, _ => false

def sameAll : List Expr → List Expr → Bool
  | [], [] => true
  | x :: xs, y :: ys => same x y && sameAll xs ys
  | _, _ => false

end

end Expr
end EventRouting
