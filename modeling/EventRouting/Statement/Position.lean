import EventRouting.Text.Lines

set_option autoImplicit false

namespace EventRouting

structure Position where
  /-- Characters from the start of the text. -/
  offset : Nat
  /-- Line, counted from one. -/
  line : Nat
  /-- Column, counted from one. -/
  column : Nat
deriving DecidableEq, Repr, Inhabited

namespace Position

def start : Position := ⟨0, 1, 1⟩

def next (p : Position) (c : Char) : Position :=
  if c = '\n' then ⟨p.offset + 1, p.line + 1, 1⟩ else ⟨p.offset + 1, p.line, p.column + 1⟩

def after (p : Position) (cs : List Char) : Position := cs.foldl next p

def toText (p : Position) : String :=
  Text.digits 10 p.line ++ ":" ++ Text.digits 10 p.column

def lineText (p : Position) (source : String) : String :=
  (Text.lines source)[p.line - 1]?.getD ""

def spaces (n : Nat) : String := String.ofList (List.replicate n ' ')

def caret (p : Position) (source : String) : String :=
  let number := Text.digits 10 p.line
  let gutter := spaces (number.length + 1)
  "\n--> " ++ p.toText ++ "\n" ++ gutter ++ "|\n" ++ number ++ " | " ++ p.lineText source ++ "\n"
    ++ gutter ++ "| " ++ spaces (p.column - 1) ++ "^"

def maxFill : Nat := 65535

/-- A caret that is further to the right cannot be written, and the program stops. -/
def caret? (p : Position) (source : String) : Option String :=
  if p.column - 1 ≤ maxFill then some (p.caret source) else none

theorem after_nil (p : Position) : p.after [] = p := rfl

theorem after_cons (p : Position) (c : Char) (cs : List Char) :
    p.after (c :: cs) = (p.next c).after cs := rfl

theorem after_append (p : Position) (cs ds : List Char) :
    p.after (cs ++ ds) = (p.after cs).after ds := by
  simp [after, List.foldl_append]

end Position
end EventRouting
