import EventRouting.Decimal.Literal

set_option autoImplicit false

/-!
# JSON documents

The structure of a JSON text before its numbers and strings are interpreted. Reading is a run of
a machine over the tokens of the text: the machine keeps the open arrays and objects on a stack
and knows what may come next.
-/
namespace EventRouting

inductive JsonPiece
  | char (c : Char)
  | unit (code : Nat)
deriving DecidableEq

inductive Document
  | null
  | boolean (value : Bool)
  | number (literal : Decimal.Literal)
  | string (pieces : List JsonPiece)
  | array (items : List Document)
  | object (members : List (List JsonPiece × Document))
deriving Inhabited

inductive JsonToken
  | scalar (value : Document)
  | text (pieces : List JsonPiece)
  | beginArray
  | endArray
  | beginObject
  | endObject
  | colon
  | comma

namespace JsonToken

def isSpace (c : Char) : Bool := c = ' ' || c = '\t' || c = '\n' || c = '\r'

def shortEscape? : Char → Option Char
  | '"' => some '"'
  | '\\' => some '\\'
  | '/' => some '/'
  | 'b' => some '\x08'
  | 'f' => some '\x0c'
  | 'n' => some '\n'
  | 'r' => some '\r'
  | 't' => some '\t'
  | _ => none

def unit? (a b c d : Char) : Option Nat := do
  let a ← Text.hexDigit? a
  let b ← Text.hexDigit? b
  let c ← Text.hexDigit? c
  let d ← Text.hexDigit? d
  return ((16 * a + b) * 16 + c) * 16 + d

/-- The pieces of a string up to its closing quote, and the number of characters they and the
quote are written with. Control characters must be escaped. -/
def pieces? : List Char → Option (List JsonPiece × Nat)
  | [] => none
  | '"' :: _ => some ([], 1)
  | '\\' :: 'u' :: a :: b :: c :: d :: rest => do
    let code ← unit? a b c d
    let (pieces, length) ← pieces? rest
    return (.unit code :: pieces, length + 6)
  | '\\' :: c :: rest => do
    let c ← shortEscape? c
    let (pieces, length) ← pieces? rest
    return (.char c :: pieces, length + 2)
  | c :: rest => do
    guard (0x20 ≤ c.toNat)
    let (pieces, length) ← pieces? rest
    return (.char c :: pieces, length + 1)

def isJsonNumber (l : Decimal.Literal) : Bool :=
  match l.whole with
  | '0' :: _ :: _ => false
  | _ => true

def scan? (c : Char) (rest : List Char) : Option (JsonToken × Nat) :=
  match c, rest with
  | '[', _ => some (.beginArray, 0)
  | ']', _ => some (.endArray, 0)
  | '\x7b', _ => some (.beginObject, 0)
  | '\x7d', _ => some (.endObject, 0)
  | ':', _ => some (.colon, 0)
  | ',', _ => some (.comma, 0)
  | '"', _ => (pieces? rest).map fun (pieces, length) => (.text pieces, length)
  | 'n', 'u' :: 'l' :: 'l' :: _ => some (.scalar .null, 3)
  | 't', 'r' :: 'u' :: 'e' :: _ => some (.scalar (.boolean true), 3)
  | 'f', 'a' :: 'l' :: 's' :: 'e' :: _ => some (.scalar (.boolean false), 4)
  | _, _ => do
    let literal ← Decimal.Literal.scan (c :: rest)
    guard (isJsonNumber literal)
    return (.scalar (.number literal), literal.text.length - 1)

def tokens? : List Char → Option (List JsonToken)
  | [] => some []
  | c :: rest =>
    if isSpace c then tokens? rest
    else match scan? c rest with
      | none => none
      | some (t, length) => (tokens? (rest.drop length)).map (t :: ·)
termination_by cs => cs.length
decreasing_by
  · simp
  · simp only [List.length_drop, List.length_cons]
    omega

end JsonToken

namespace Document

/-- An open array with the items read so far, or an open object with the members read so far
and the key of the next one. The latest stand first. -/
inductive Frame
  | array (items : List Document)
  | object (members : List (List JsonPiece × Document)) (key : List JsonPiece)

/-- What may come next: a value, a value or the end of a new array, a key or the end of a new
object, a further key, the colon behind a key, or whatever goes on behind a value. -/
inductive Phase
  | value
  | firstItem
  | firstKey
  | key (members : List (List JsonPiece × Document))
  | colon (members : List (List JsonPiece × Document)) (key : List JsonPiece)
  | after (value : Document)

structure State where
  phase : Phase
  stack : List Frame

def beginValue? (stack : List Frame) : JsonToken → Option State
  | .scalar value => some ⟨.after value, stack⟩
  | .text pieces => some ⟨.after (.string pieces), stack⟩
  | .beginArray => some ⟨.firstItem, .array [] :: stack⟩
  | .beginObject => some ⟨.firstKey, stack⟩
  | _ => none

def step? : State → JsonToken → Option State
  | ⟨.value, stack⟩, t => beginValue? stack t
  | ⟨.firstItem, .array _ :: stack⟩, .endArray => some ⟨.after (.array []), stack⟩
  | ⟨.firstItem, stack⟩, t => beginValue? stack t
  | ⟨.firstKey, stack⟩, .endObject => some ⟨.after (.object []), stack⟩
  | ⟨.firstKey, stack⟩, .text key => some ⟨.colon [] key, stack⟩
  | ⟨.key members, stack⟩, .text key => some ⟨.colon members key, stack⟩
  | ⟨.colon members key, stack⟩, .colon => some ⟨.value, .object members key :: stack⟩
  | ⟨.after value, .array items :: stack⟩, .comma =>
    some ⟨.value, .array (value :: items) :: stack⟩
  | ⟨.after value, .array items :: stack⟩, .endArray =>
    some ⟨.after (.array (value :: items).reverse), stack⟩
  | ⟨.after value, .object members key :: stack⟩, .comma =>
    some ⟨.key ((key, value) :: members), stack⟩
  | ⟨.after value, .object members key :: stack⟩, .endObject =>
    some ⟨.after (.object ((key, value) :: members).reverse), stack⟩
  | _, _ => none

def ofTokens? (tokens : List JsonToken) : Option Document :=
  match tokens.foldlM step? ⟨.value, []⟩ with
  | some ⟨.after value, []⟩ => some value
  | _ => none

def ofText? (text : String) : Option Document := do
  ofTokens? (← JsonToken.tokens? text.toList)

end Document
end EventRouting
