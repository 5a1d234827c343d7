import EventRouting.Text.Alphabetic

set_option autoImplicit false

namespace EventRouting

/-- Characters with the Unicode property White_Space. -/
def CharSet.whiteSpace : CharSet where intervals := [
  (0x9, 0xD), (0x20, 0x20), (0x85, 0x85), (0xA0, 0xA0), (0x1680, 0x1680), (0x2000, 0x200A),
  (0x2028, 0x2029), (0x202F, 0x202F), (0x205F, 0x205F), (0x3000, 0x3000)]

namespace Text

def isBlank (c : Char) : Bool := CharSet.whiteSpace.contains c

def isAsciiLetter (c : Char) : Bool :=
  'a' ≤ c && c ≤ 'z' || 'A' ≤ c && c ≤ 'Z'

def isDigit (c : Char) : Bool := '0' ≤ c && c ≤ '9'

def isAsciiAlphanumeric (c : Char) : Bool := isAsciiLetter c || isDigit c

def isAscii (c : Char) : Bool := c.toNat < 0x80

def isAlphabetic (c : Char) : Bool :=
  if isAscii c then isAsciiLetter c else CharSet.alphabetic.contains c

def isAlphanumeric (c : Char) : Bool :=
  if isAscii c then isAsciiAlphanumeric c
  else CharSet.alphabetic.contains c || CharSet.numeric.contains c

def hexDigit? (c : Char) : Option Nat :=
  if isDigit c then some (c.toNat - '0'.toNat)
  else if 'a' ≤ c && c ≤ 'f' then some (c.toNat - 'a'.toNat + 10)
  else if 'A' ≤ c && c ≤ 'F' then some (c.toNat - 'A'.toNat + 10)
  else none

def digits (base n : Nat) : String := String.ofList (Nat.toDigits base n)

def ofInt (n : Int) : String :=
  String.ofList ((if n < 0 then ['-'] else []) ++ Nat.toDigits 10 n.natAbs)

theorem whiteSpace_intervals :
    (CharSet.whiteSpace.intervals.all fun (first, last) =>
      (List.range' first (last + 1 - first)).all fun n =>
        !isAlphanumeric (Char.ofNat n)) = true := by
  decide +kernel

theorem isAlphanumeric_of_isBlank {c : Char} (h : isBlank c = true) :
    isAlphanumeric c = false := by
  have table := whiteSpace_intervals
  rw [List.all_eq_true] at table
  unfold isBlank CharSet.contains at h
  obtain ⟨⟨first, last⟩, hmem, hc⟩ := List.any_eq_true.1 h
  simp only [Bool.and_eq_true, decide_eq_true_eq] at hc
  have row := table (first, last) hmem
  rw [List.all_eq_true] at row
  have := row c.toNat (List.mem_range'_1.2 (by omega))
  simpa using this

end Text
end EventRouting
