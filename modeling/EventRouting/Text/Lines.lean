import EventRouting.Text.Classes

set_option autoImplicit false

namespace EventRouting.Text

def splitLines : List Char → List (List Char)
  | [] => []
  | '\r' :: '\n' :: rest => [] :: splitLines rest
  | '\n' :: rest => [] :: splitLines rest
  | c :: rest =>
    match splitLines rest with
    | [] => [[c]]
    | line :: others => (c :: line) :: others

def lines (text : String) : List String :=
  (splitLines text.toList).map String.ofList

def isBlankLine (line : String) : Bool := line.toList.all isBlank

def dropBlanks (text : String) : String :=
  String.ofList (text.toList.dropWhile isBlank)

end EventRouting.Text
