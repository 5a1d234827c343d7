import EventRouting.Decimal.Literal
import EventRouting.Pattern.Reading
import EventRouting.Pattern.Syntax

set_option autoImplicit false

namespace EventRouting.Pattern

open Reading

def isMeta (c : Char) : Bool :=
  "\\.+*?()|[]\x7b\x7d^$#&-~".toList.contains c

/-- Characters that a backslash makes literal: all of ASCII but letters, digits and the angle
brackets, which mark word boundaries. -/
def isEscapable (c : Char) : Bool :=
  isMeta c || Text.isAscii c && !Text.isAsciiAlphanumeric c && c != '<' && c != '>'

def charOf? (n : Nat) : Option Char := if n.isValidChar then some (Char.ofNat n) else none

def hexLiteral (ds : List Nat) (asByte : Bool) : Reading Literal :=
  match charOf? (ds.foldl (fun n d => 16 * n + d) 0) with
  | some c => return ⟨c, asByte⟩
  | none => fail .hexValueInvalid

def hexDigits (verbose : Bool) : Nat → Reading (List Nat)
  | 0 => return []
  | n + 1 => do
    match Text.hexDigit? (← peekOr .unexpectedEnd) with
    | none => fail .hexDigitInvalid
    | some d =>
      dropAndSkip verbose
      return d :: (← hexDigits verbose n)

def hexEscape (verbose : Bool) (digits : Nat) : Reading Literal := do
  skip verbose
  if (← peekOr .unexpectedEnd) = '\x7b' then
    dropAndSkip verbose
    let ds ← takeWhile verbose fun c => (Text.hexDigit? c).isSome
    if (← peekOr .unexpectedEnd) ≠ '\x7d' then fail .hexDigitInvalid
    else
      dropAndSkip verbose
      if ds.isEmpty then fail .emptyHexEscape
      else hexLiteral (ds.filterMap Text.hexDigit?) false
  else hexLiteral (← hexDigits verbose digits) (digits = 2)

def splitAt? (word : List Char) : List Char → Option (List Char × List Char)
  | [] => none
  | c :: rest =>
    if word.isPrefixOf (c :: rest) then some ([], (c :: rest).drop word.length)
    else (splitAt? word rest).map fun (before, behind) => (c :: before, behind)

/-- A property and its value are separated by `!=`, a colon or an equals sign, which are looked
for in this order. -/
def propertyName (text : List Char) : PropertyName :=
  let parts := (splitAt? ['!', '='] text).or ((splitAt? [':'] text).or (splitAt? ['='] text))
  match parts with
  | some (property, value) => .valued (String.ofList property) (String.ofList value)
  | none => .named (String.ofList text)

def propertyEscape (verbose negated : Bool) : Reading Primitive := do
  skip verbose
  let c ← peekOr .unexpectedEnd
  if c = '\x7b' then
    dropAndSkip verbose
    let name ← takeWhile verbose (· != '\x7d')
    let _ ← peekOr .unexpectedEnd
    drop 1
    return .property (propertyName name) negated
  else if c = '\\' then fail .propertyUnknown
  else
    dropAndSkip verbose
    return .property (.named (String.singleton c)) negated

def isBoundaryChar (c : Char) : Bool := Text.isAsciiLetter c || c = '-'

/-- What follows the escape of a word boundary: the name of a special boundary in braces, or
braces that belong to a repetition, or nothing of its own. -/
def boundaryName (verbose : Bool) : Reading Assertion := do
  if (← peek?) ≠ some '\x7b' then return .wordBoundary
  else match skipIgnored verbose ((← ahead).drop 1) with
    | [] => fail .unexpectedEnd
    | c :: _ =>
      if isBoundaryChar c then
        dropAndSkip verbose
        let name ← takeWhile verbose isBoundaryChar
        if (← peekOr .unknownBoundary) ≠ '\x7d' then fail .unknownBoundary
        else
          drop 1
          match String.ofList name with
          | "start" => return .wordStart
          | "end" => return .wordEnd
          | "start-half" => return .wordStartHalf
          | "end-half" => return .wordEndHalf
          | _ => fail .unknownBoundary
      else return .wordBoundary

def special (c : Char) : Reading Primitive := return .literal ⟨c, false⟩

def escape (verbose : Bool) : Reading Primitive := do
  let c ← peekOr .unexpectedEnd
  drop 1
  if Text.isDigit c then fail .backreference
  else if isEscapable c then return .literal ⟨c, false⟩
  else match c with
    | 'x' => return .literal (← hexEscape verbose 2)
    | 'u' => return .literal (← hexEscape verbose 4)
    | 'U' => return .literal (← hexEscape verbose 8)
    | 'p' => propertyEscape verbose false
    | 'P' => propertyEscape verbose true
    | 'd' => return .letterClass .digit false
    | 'D' => return .letterClass .digit true
    | 's' => return .letterClass .space false
    | 'S' => return .letterClass .space true
    | 'w' => return .letterClass .word false
    | 'W' => return .letterClass .word true
    | 'a' => special '\x07'
    | 'f' => special '\x0c'
    | 't' => special '\t'
    | 'n' => special '\n'
    | 'r' => special '\r'
    | 'v' => special '\x0b'
    | 'A' => return .assertion .textStart
    | 'z' => return .assertion .textEnd
    | 'b' => return .assertion (← boundaryName verbose)
    | 'B' => return .assertion .notWordBoundary
    | '<' => return .assertion .wordStart
    | '>' => return .assertion .wordEnd
    | _ => fail .unknownEscape

def maxCount : Nat := 2 ^ 32 - 1

def count? (verbose : Bool) : Reading (Option Nat) := do
  let _ ← takeWhile false Text.isBlank
  let ds ← takeWhile verbose Text.isDigit
  let _ ← takeWhile verbose Text.isBlank
  if ds.isEmpty then return none
  else if Text.natOfDigits ds ≤ maxCount then return some (Text.natOfDigits ds)
  else fail .decimalInvalid

def count (verbose : Bool) : Reading Nat := do
  match ← count? verbose with
  | some n => return n
  | none => fail .emptyRepetitionCount

def counts (verbose : Bool) : Reading (Nat × Option Nat) := do
  skip verbose
  let _ ← peekOr .repetitionCountUnclosed
  let least ← count verbose
  let range ← do
    if (← peekOr .repetitionCountUnclosed) = ',' then
      dropAndSkip verbose
      if (← peekOr .repetitionCountUnclosed) = '\x7d' then pure (least, none)
      else pure (least, some (← count verbose))
    else pure (least, some least)
  if (← peekOr .repetitionCountUnclosed) ≠ '\x7d' then fail .repetitionCountUnclosed
  else
    dropAndSkip verbose
    if (← peek?) = some '?' then drop 1
    match range with
    | (least, some greatest) =>
      if least ≤ greatest then return range else fail .repetitionCountInvalid
    | _ => return range

end EventRouting.Pattern
