import EventRouting.Decimal.Binary64

set_option autoImplicit false

namespace EventRouting

def roundHalfEven (a b : Nat) : Nat :=
  let quotient := a / b
  let twice := 2 * (a % b)
  if twice < b || twice = b && quotient % 2 = 0 then quotient else quotient + 1

namespace Magnitude

/-- The magnitude with these parts; a significand of `2 ^ 53` moves to the next exponent. There
is none past the largest finite number. -/
def ofParts? (significand exponent : Nat) : Option Magnitude :=
  let (significand, exponent) :=
    if significand = 2 ^ 53 then (2 ^ 52, exponent + 1) else (significand, exponent)
  if h : CanonicalMagnitude significand exponent then some ⟨significand, exponent, h⟩ else none

def nearest? (num den : Nat) : Option Magnitude :=
  let units := num * 2 ^ 1074
  let exponent := (units / den).log2 - 52
  ofParts? (roundHalfEven units (den * 2 ^ exponent)) exponent

/-- The magnitude nearest to `coefficient * 10 ^ exponent`. Since `8 ^ k ≤ 10 ^ k`, the first
test catches only values above `2 ^ 1100` and the second only values below `2 ^ -1080`. -/
def ofDecimal? (coefficient : Nat) : Int → Option Magnitude
  | .ofNat k =>
    if coefficient = 0 then some zero
    else if coefficient.log2 + 3 * k > 1100 then none
    else nearest? (coefficient * 10 ^ k) 1
  | .negSucc k =>
    if coefficient.log2 + 1081 < 3 * (k + 1) then some zero
    else nearest? coefficient (10 ^ (k + 1))

end Magnitude

namespace Binary64

def ofDecimal (negative : Bool) (coefficient : Nat) (exponent : Int) : Binary64 :=
  match Magnitude.ofDecimal? coefficient exponent with
  | some m => .finite negative m
  | none => .infinite negative

def ofInt (n : Int) : Binary64 := ofDecimal (n < 0) n.natAbs 0

end Binary64
end EventRouting
