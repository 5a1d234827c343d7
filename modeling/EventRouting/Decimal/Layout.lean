import EventRouting.Decimal.Shortest

set_option autoImplicit false

namespace EventRouting.Decimal

structure Layout where
  /-- The lowest position of the point that is written out. -/
  lowestPoint : Int
  /-- Whether an exponent that is not negative has a plus sign. -/
  plusSign : Bool
  tie : Tie

def highestPoint : Int := 16

/-- Text of statements and messages: a point from `1e-4` up to below `1e16`. -/
def Layout.statement : Layout := ⟨-3, false, .up⟩

/-- Text of JSON numbers: a point from `1e-5` up to below `1e16`, and `1e+16` beyond. -/
def Layout.json : Layout := ⟨-4, true, .even⟩

def withPoint (digits : List Char) (point : Int) : List Char :=
  if point ≤ 0 then '0' :: '.' :: List.replicate (-point).toNat '0' ++ digits
  else if digits.length ≤ point.toNat then
    digits ++ List.replicate (point.toNat - digits.length) '0' ++ ['.', '0']
  else digits.take point.toNat ++ '.' :: digits.drop point.toNat

def withExponent (plusSign : Bool) (digits : List Char) (exponent : Int) : List Char :=
  let fraction := if digits.length ≤ 1 then [] else '.' :: digits.drop 1
  let sign := if exponent < 0 then ['-'] else if plusSign then ['+'] else []
  digits.take 1 ++ fraction ++ 'e' :: sign ++ Nat.toDigits 10 exponent.natAbs

def Layout.magnitude (layout : Layout) (m : Magnitude) : List Char :=
  if m.isZero then ['0', '.', '0']
  else
    let (coefficient, power) := m.shortest layout.tie
    let digits := Nat.toDigits 10 coefficient
    let point := digits.length + power
    if layout.lowestPoint ≤ point ∧ point ≤ highestPoint then withPoint digits point
    else withExponent layout.plusSign digits (point - 1)

def Layout.finite (layout : Layout) (negative : Bool) (m : Magnitude) : String :=
  String.ofList ((if negative then ['-'] else []) ++ layout.magnitude m)

end EventRouting.Decimal

namespace EventRouting.Binary64

def toText : Binary64 → String
  | .nan => "NaN"
  | .infinite true => "-inf"
  | .infinite false => "inf"
  | .finite negative m => Decimal.Layout.statement.finite negative m

end EventRouting.Binary64
