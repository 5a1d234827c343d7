import EventRouting.Decimal.Layout
import EventRouting.Decimal.Literal
import EventRouting.Pointer
import EventRouting.Statement.Position

set_option autoImplicit false

namespace EventRouting

inductive Token
  | float (value : Binary64)
  | integer (value : Int64)
  | string (value : String)
  | boolean (value : Bool)
  | null
  | pointer (value : Pointer)
  | equal
  | notEqual
  | matches
  | notMatches
  | less
  | greater
  | lessEqual
  | greaterEqual
  | and
  | or
  | not
  | member
  | leftBracket
  | rightBracket
  | leftParen
  | rightParen
  | comma
  /-- Text that begins no token: a stray character or an unknown word. -/
  | invalid (text : String)
  | eof
deriving DecidableEq

def Token.toText : Token → String
  | .float x => x.toText
  | .integer n => Text.ofInt n.toInt
  | .string s => Text.quote s
  | .boolean true => "true"
  | .boolean false => "false"
  | .null => "null"
  | .pointer p => p.toText
  | .equal => "=="
  | .notEqual => "!="
  | .matches => "=~"
  | .notMatches => "!~"
  | .less => "<"
  | .greater => ">"
  | .lessEqual => "<="
  | .greaterEqual => ">="
  | .and => "and"
  | .or => "or"
  | .not => "not"
  | .member => "in"
  | .leftBracket => "["
  | .rightBracket => "]"
  | .leftParen => "("
  | .rightParen => ")"
  | .comma => ","
  | .invalid text => text
  | .eof => "<EOF>"

structure Placed where
  token : Token
  position : Position
deriving DecidableEq

end EventRouting
