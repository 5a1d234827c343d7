import EventRouting.Decimal.Layout
import EventRouting.Statement.Expr
import EventRouting.Text.Classes

set_option autoImplicit false

namespace EventRouting.Expr

def escapeChar (c : Char) : List Char :=
  match c with
  | '"' => ['\\', '"']
  | '\\' => ['\\', '\\']
  | '\n' => ['\\', 'n']
  | '\r' => ['\\', 'r']
  | '\t' => ['\\', 't']
  | _ => [c]

/-- The body of a string literal. A slash at the start would make it a pointer, so that one is
escaped as well. -/
def escapeBody : List Char → List Char
  | '/' :: rest => '\\' :: '/' :: rest.flatMap escapeChar
  | cs => cs.flatMap escapeChar

def stringText (s : String) : List Char := '"' :: (escapeBody s.toList ++ ['"'])

def booleanText : Bool → List Char
  | true => ['t', 'r', 'u', 'e']
  | false => ['f', 'a', 'l', 's', 'e']

def inParens (nested : Bool) (text : List Char) : List Char :=
  if nested then '(' :: (text ++ [')']) else text

mutual

/-- The text of an expression; `nested` holds for the operands of an operation. -/
def canonicalChars (nested : Bool) : Expr → List Char
  | .float x => x.toText.toList
  | .integer n => (Text.ofInt n.toInt).toList
  | .string s => stringText s
  | .boolean b => booleanText b
  | .null => ['n', 'u', 'l', 'l']
  | .pointer p => p.toChars
  | .list items => '[' :: (canonicalItems items ++ [']'])
  | .not operand => inParens nested (['n', 'o', 't', ' '] ++ canonicalChars true operand)
  | .binary op left right =>
    inParens nested
      (canonicalChars true left ++ ' ' :: op.symbol.toList ++ ' ' :: canonicalChars true right)

def canonicalItems : List Expr → List Char
  | [] => []
  | [item] => canonicalChars false item
  | item :: rest => canonicalChars false item ++ ',' :: ' ' :: canonicalItems rest

end

def toStatement (e : Expr) : String := String.ofList (e.canonicalChars false)

end EventRouting.Expr
