import EventRouting.Decimal.Binary64

set_option autoImplicit false

/-!
# Shortest decimals

The decimal with the fewest digits among those that read back to a given magnitude, and among
these the nearest to it. The reals that read back form an interval around the magnitude: half
of the gap to the neighbour on either side, the ends included for an even significand. A power
of ten has a multiple in that interval exactly if one of the two multiples next to the magnitude
is in it, so powers are tried from above the magnitude downwards.
-/
namespace EventRouting

inductive Tie
  | up
  | even
deriving DecidableEq

namespace Magnitude

/-- Half of the gap to the next smaller magnitude, in quarters of a unit. Below a power of two
the gap is half as wide. -/
def halfGapBelow (m : Magnitude) : Nat :=
  if m.significand = 2 ^ 52 ∧ 0 < m.exponent then 2 ^ m.exponent else 2 * 2 ^ m.exponent

def halfGapAbove (m : Magnitude) : Nat := 2 * 2 ^ m.exponent

def multiple? (tie : Tie) (m : Magnitude) (power : Int) : Option Nat :=
  let scale := 10 ^ (-power).toNat
  let step := 2 ^ 1076 * 10 ^ power.toNat
  let value := 4 * m.units * scale
  let lower := value / step
  let below := value % step
  let above := step - below
  let within (distance gap : Nat) : Bool :=
    distance < gap * scale || distance = gap * scale && m.significand % 2 = 0
  match within below m.halfGapBelow, within above m.halfGapAbove with
  | false, false => none
  | true, false => some lower
  | false, true => some (lower + 1)
  | true, true =>
    if below < above then some lower
    else if above < below then some (lower + 1)
    else if tie = .even ∧ lower % 2 = 0 then some lower
    else some (lower + 1)

/-- A power of ten above the magnitude, which is below `2 ^ (log2 units - 1073)`. -/
def powerAbove (m : Magnitude) : Int :=
  ((m.units.log2 : Int) - 1073) * 30103 / 100000 + 1

/-- The shortest decimal as a coefficient and a power of ten. Should none of the powers tried
have a multiple that reads back, the magnitude itself is written out: `2 ^ -1074` is
`5 ^ 1074 * 10 ^ -1074`. -/
def shortest (tie : Tie) (m : Magnitude) : Nat × Int :=
  ((List.range 24).findSome? fun (i : Nat) =>
    let power := m.powerAbove - (i : Int)
    (m.multiple? tie power).map (·, power)).getD (m.units * 5 ^ 1074, -1074)

end Magnitude
end EventRouting
