import EventRouting.Json.Basic
import EventRouting.Json.Document
import EventRouting.Value.Basic

set_option autoImplicit false

namespace EventRouting

inductive JsonError
  | malformed
  | loneSurrogate
  | numberOutOfRange
  | nestingTooDeep
  | expected (what : String)
deriving DecidableEq

def JsonError.message : JsonError → String
  | .malformed => "not a JSON text"
  | .loneSurrogate => "half of a surrogate pair in a string"
  | .numberOutOfRange => "number out of range"
  | .nestingTooDeep => "nesting deeper than 127 levels"
  | .expected what => "expected " ++ what

def maxJsonDepth : Nat := 127

def isHighSurrogate (n : Nat) : Bool := 0xD800 ≤ n && n < 0xDC00

def isLowSurrogate (n : Nat) : Bool := 0xDC00 ≤ n && n < 0xE000

/-- The characters that the pieces of a string write. Two units that form a surrogate pair are
one character, and a unit of a pair cannot stand alone. -/
def joinPieces : List JsonPiece → Except JsonError (List Char)
  | [] => return []
  | .char c :: rest => return c :: (← joinPieces rest)
  | .unit high :: .unit low :: rest =>
    if isHighSurrogate high then
      if isLowSurrogate low then
        return Char.ofNat (0x10000 + (high - 0xD800) * 0x400 + (low - 0xDC00))
          :: (← joinPieces rest)
      else .error .loneSurrogate
    else if isLowSurrogate high then .error .loneSurrogate
    else return Char.ofNat high :: (← joinPieces (.unit low :: rest))
  | .unit code :: rest =>
    if isHighSurrogate code || isLowSurrogate code then .error .loneSurrogate
    else return Char.ofNat code :: (← joinPieces rest)

def stringOfPieces (pieces : List JsonPiece) : Except JsonError String :=
  (joinPieces pieces).map String.ofList

/-- A number is an integer if it is written as one and fits, and otherwise a float; minus zero
is a float. -/
def JsonNumber.ofLiteral (l : Decimal.Literal) : Except JsonError JsonNumber :=
  if h : l.isInteger = true ∧ (l.negative = true → l.integer ≠ 0) ∧ JsonIntegerRange l.integer then
    .ok (.integer l.integer h.2.2)
  else
    match l.toBinary64 with
    | .finite negative magnitude => .ok (.float negative magnitude)
    | _ => .error .numberOutOfRange

namespace Document

mutual

def toJson (room : Nat) : Document → Except JsonError Json
  | .null => return .null
  | .boolean b => return .boolean b
  | .number l => return .number (← JsonNumber.ofLiteral l)
  | .string pieces => return .string (← stringOfPieces pieces)
  | .array items =>
    match room with
    | 0 => .error .nestingTooDeep
    | room + 1 => return .array (← toJsonItems room items)
  | .object members =>
    match room with
    | 0 => .error .nestingTooDeep
    | room + 1 => return .object (Fields.ofList (← toJsonMembers room members))

def toJsonItems (room : Nat) : List Document → Except JsonError (List Json)
  | [] => return []
  | item :: rest => return (← toJson room item) :: (← toJsonItems room rest)

def toJsonMembers (room : Nat) :
    List (List JsonPiece × Document) → Except JsonError (List (String × Json))
  | [] => return []
  | (key, value) :: rest =>
    return (← stringOfPieces key, ← toJson room value) :: (← toJsonMembers room rest)

end

def parse (text : String) : Except JsonError Document :=
  match ofText? text with
  | some document => .ok document
  | none => .error .malformed

end Document

namespace Json

def parse (text : String) : Except JsonError Json := do
  (← Document.parse text).toJson maxJsonDepth

def parseArray (text : String) : Except JsonError (List Json) := do
  match ← parse text with
  | .array items => return items
  | _ => .error (.expected "an array")

end Json
end EventRouting
