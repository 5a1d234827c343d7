import EventRouting.Decimal.Nearest
import EventRouting.Text.Classes

set_option autoImplicit false

namespace EventRouting

namespace Text

def natOfDigits (ds : List Char) : Nat :=
  ds.foldl (fun n d => 10 * n + (d.toNat - '0'.toNat)) 0

end Text

namespace Decimal

structure Exponent where
  mark : Char
  sign : Option Char
  digits : List Char
deriving DecidableEq

structure Literal where
  negative : Bool
  whole : List Char
  fraction : Option (List Char)
  exponent : Option Exponent
deriving DecidableEq

namespace Exponent

def text (e : Exponent) : List Char := e.mark :: e.sign.toList ++ e.digits

def value (e : Exponent) : Int :=
  if e.sign = some '-' then -(Text.natOfDigits e.digits : Int) else Text.natOfDigits e.digits

def scan : List Char → Option Exponent
  | mark :: rest =>
    if mark = 'e' || mark = 'E' then
      let (sign, digits) := match rest with
        | '+' :: more => (some '+', more.takeWhile Text.isDigit)
        | '-' :: more => (some '-', more.takeWhile Text.isDigit)
        | _ => (none, rest.takeWhile Text.isDigit)
      if digits.isEmpty then none else some ⟨mark, sign, digits⟩
    else none
  | [] => none

end Exponent

def scanFraction : List Char → Option (List Char)
  | '.' :: rest =>
    let digits := rest.takeWhile Text.isDigit
    if digits.isEmpty then none else some digits
  | _ => none

namespace Literal

def fractionText (l : Literal) : List Char :=
  match l.fraction with
  | some digits => '.' :: digits
  | none => []

def exponentText (l : Literal) : List Char :=
  match l.exponent with
  | some e => e.text
  | none => []

def text (l : Literal) : List Char :=
  (if l.negative then ['-'] else []) ++ l.whole ++ l.fractionText ++ l.exponentText

def scanUnsigned (negative : Bool) (cs : List Char) : Option Literal :=
  let whole := cs.takeWhile Text.isDigit
  if whole.isEmpty then none
  else
    let rest := cs.dropWhile Text.isDigit
    let fraction := scanFraction rest
    let rest := match fraction with
      | some digits => rest.drop (digits.length + 1)
      | none => rest
    some ⟨negative, whole, fraction, Exponent.scan rest⟩

/-- The longest literal that a text begins with. -/
def scan : List Char → Option Literal
  | '-' :: rest => scanUnsigned true rest
  | cs => scanUnsigned false cs

theorem whole_ne_nil_of_scanUnsigned {negative : Bool} {cs : List Char} {l : Literal}
    (h : scanUnsigned negative cs = some l) : l.whole ≠ [] := by
  unfold scanUnsigned at h
  simp only at h
  split at h
  · simp at h
  · rename_i hw
    simp only [Option.some.injEq] at h
    subst h
    simpa using hw

theorem whole_ne_nil_of_scan {cs : List Char} {l : Literal} (h : scan cs = some l) :
    l.whole ≠ [] := by
  unfold scan at h
  split at h <;> exact whole_ne_nil_of_scanUnsigned h

theorem text_ne_nil_of_scan {cs : List Char} {l : Literal} (h : scan cs = some l) :
    l.text ≠ [] := by
  have := whole_ne_nil_of_scan h
  simp [text, this]

def isInteger (l : Literal) : Bool := l.fraction.isNone && l.exponent.isNone

def integer (l : Literal) : Int :=
  if l.negative then -(Text.natOfDigits l.whole : Int) else Text.natOfDigits l.whole

def toBinary64 (l : Literal) : Binary64 :=
  let fraction := l.fraction.getD []
  let exponent := match l.exponent with
    | some e => e.value
    | none => 0
  .ofDecimal l.negative (Text.natOfDigits (l.whole ++ fraction)) (exponent - fraction.length)

end Literal
end Decimal

namespace Int64

def ofInt? (n : Int) : Option Int64 :=
  if -2 ^ 63 ≤ n ∧ n < 2 ^ 63 then some (Int64.ofInt n) else none

end Int64
end EventRouting
