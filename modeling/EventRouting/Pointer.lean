import EventRouting.Text.Quoted

set_option autoImplicit false

/-!
# Pointers

A pointer names a field of an event by a list of segments. It is written bare, `/status/code`,
when every segment consists of plain characters, and in quotes otherwise, with a backslash
before a slash, backslash or quote that belongs to a segment. Reading drops the quotes if both
are there and keeps a backslash before any other character.
-/
namespace EventRouting

structure Pointer where
  segments : List String
deriving DecidableEq, Repr, Inhabited

inductive PointerError
  | missingLeadingSlash (text : String)
deriving DecidableEq, Repr

def PointerError.message : PointerError → String
  | .missingLeadingSlash text => "JSON pointer must start with '/', got " ++ Text.quote text

namespace Pointer

def isBareChar (c : Char) : Bool :=
  Text.isAsciiAlphanumeric c || c = '_' || c = '-' || c = '.' || c = '@' || c = '~'

def isBare (p : Pointer) : Bool :=
  p.segments.all fun segment => segment.toList.all isBareChar

def consFirst (c : Char) : List (List Char) → List (List Char)
  | [] => [[c]]
  | segment :: others => (c :: segment) :: others

def splitSlashes : List Char → List (List Char)
  | [] => [[]]
  | c :: rest => if c = '/' then [] :: splitSlashes rest else consFirst c (splitSlashes rest)

def ofBare (body : List Char) : Pointer := ⟨(splitSlashes body).map String.ofList⟩

/-- The segments of pointer text after its first slash, escapes resolved. -/
def splitEscaped : List Char → List (List Char)
  | [] => [[]]
  | '/' :: rest => [] :: splitEscaped rest
  | ['\\'] => [['\\']]
  | '\\' :: c :: rest =>
    if c = '/' ∨ c = '\\' ∨ c = '"' then consFirst c (splitEscaped rest)
    else consFirst '\\' (consFirst c (splitEscaped rest))
  | c :: rest => consFirst c (splitEscaped rest)

def ofEscaped (text : List Char) : Except PointerError Pointer :=
  match text with
  | '/' :: body => .ok ⟨(splitEscaped body).map String.ofList⟩
  | _ => .error (.missingLeadingSlash (String.ofList text))

def stripQuotes (text : List Char) : List Char :=
  match text with
  | '"' :: rest => if rest.getLast? = some '"' then rest.dropLast else text
  | _ => text

def parse (text : String) : Except PointerError Pointer :=
  ofEscaped (stripQuotes text.toList)

def escapeChar (c : Char) : List Char :=
  if c = '/' ∨ c = '\\' ∨ c = '"' then ['\\', c] else [c]

def toChars (p : Pointer) : List Char :=
  if p.isBare then p.segments.flatMap fun segment => '/' :: segment.toList
  else
    let body := p.segments.flatMap fun segment => '/' :: segment.toList.flatMap escapeChar
    '"' :: (body ++ ['"'])

def toText (p : Pointer) : String := String.ofList p.toChars

def normalize (text : String) : Except PointerError String :=
  (parse text).map toText

end Pointer
end EventRouting
