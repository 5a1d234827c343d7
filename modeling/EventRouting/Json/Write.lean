import EventRouting.Decimal.Layout
import EventRouting.Json.Basic
import EventRouting.Text.Classes

set_option autoImplicit false

namespace EventRouting.Json

def escapeChar (c : Char) : List Char :=
  match c with
  | '"' => ['\\', '"']
  | '\\' => ['\\', '\\']
  | '\x08' => ['\\', 'b']
  | '\x0c' => ['\\', 'f']
  | '\n' => ['\\', 'n']
  | '\r' => ['\\', 'r']
  | '\t' => ['\\', 't']
  | _ =>
    if 0x20 ≤ c.toNat then [c]
    else ['\\', 'u', '0', '0', Nat.digitChar (c.toNat / 16), Nat.digitChar (c.toNat % 16)]

def stringChars (s : String) : List Char := '"' :: (s.toList.flatMap escapeChar ++ ['"'])

def numberChars : JsonNumber → List Char
  | .integer n _ => (Text.ofInt n).toList
  | .float negative magnitude => (Decimal.Layout.json.finite negative magnitude).toList

def booleanChars (b : Bool) : List Char := if b then "true".toList else "false".toList

mutual

def compactChars : Json → List Char
  | .null => "null".toList
  | .boolean b => booleanChars b
  | .number n => numberChars n
  | .string s => stringChars s
  | .array items => '[' :: (compactItems items ++ [']'])
  | .object fields => '\x7b' :: (compactFields fields ++ ['\x7d'])

def compactItems : List Json → List Char
  | [] => []
  | [item] => compactChars item
  | item :: rest => compactChars item ++ ',' :: compactItems rest

def compactFields : List (String × Json) → List Char
  | [] => []
  | [(key, value)] => stringChars key ++ ':' :: compactChars value
  | (key, value) :: rest =>
    stringChars key ++ ':' :: (compactChars value ++ ',' :: compactFields rest)

end

def newLine (level : Nat) : List Char := '\n' :: List.replicate (2 * level) ' '

mutual

def indentedChars (level : Nat) : Json → List Char
  | .null => "null".toList
  | .boolean b => booleanChars b
  | .number n => numberChars n
  | .string s => stringChars s
  | .array [] => ['[', ']']
  | .array (item :: rest) =>
    '[' :: (newLine (level + 1) ++ indentedChars (level + 1) item
      ++ indentedItems (level + 1) rest ++ newLine level ++ [']'])
  | .object [] => ['\x7b', '\x7d']
  | .object ((key, value) :: rest) =>
    '\x7b' :: (newLine (level + 1) ++ stringChars key ++ ':' :: ' '
      :: indentedChars (level + 1) value
      ++ indentedFields (level + 1) rest ++ newLine level ++ ['\x7d'])

def indentedItems (level : Nat) : List Json → List Char
  | [] => []
  | item :: rest => ',' :: (newLine level ++ indentedChars level item ++ indentedItems level rest)

def indentedFields (level : Nat) : List (String × Json) → List Char
  | [] => []
  | (key, value) :: rest =>
    ',' :: (newLine level ++ stringChars key ++ ':' :: ' ' :: indentedChars level value
      ++ indentedFields level rest)

end

def compact (j : Json) : String := String.ofList j.compactChars

def indented (j : Json) : String := String.ofList (j.indentedChars 0)

end EventRouting.Json
