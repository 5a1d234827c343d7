import EventRouting.Pattern.Fault
import EventRouting.Text.Classes

set_option autoImplicit false

namespace EventRouting.Pattern

structure Outcome (α : Type) (text : List Char) where
  value : α
  rest : List Char
  le : rest.length ≤ text.length

def Reading (α : Type) : Type := (text : List Char) → Except Fault (Outcome α text)

/-- Drops blanks and comments; `comment` holds inside a comment, which ends with its line. -/
def dropIgnored (comment : Bool) : List Char → List Char
  | [] => []
  | c :: rest =>
    if comment then dropIgnored (c != '\n') rest
    else if Text.isBlank c then dropIgnored false rest
    else if c = '#' then dropIgnored true rest
    else c :: rest

theorem dropIgnored_length (comment : Bool) (text : List Char) :
    (dropIgnored comment text).length ≤ text.length := by
  fun_induction dropIgnored comment text <;> simp_all <;> omega

def skipIgnored (verbose : Bool) (text : List Char) : List Char :=
  if verbose then dropIgnored false text else text

theorem skipIgnored_length (verbose : Bool) (text : List Char) :
    (skipIgnored verbose text).length ≤ text.length := by
  unfold skipIgnored
  split
  · exact dropIgnored_length _ _
  · exact Nat.le_refl _

theorem skipIgnored_lt {verbose : Bool} {text rest : List Char} {c : Char}
    (h : skipIgnored verbose text = c :: rest) : rest.length < text.length := by
  have := skipIgnored_length verbose text
  rw [h, List.length_cons] at this
  omega

namespace Reading

variable {α β : Type}

protected def pure (a : α) : Reading α := fun text => .ok ⟨a, text, Nat.le_refl _⟩

protected def bind (p : Reading α) (f : α → Reading β) : Reading β := fun text =>
  match p text with
  | .error e => .error e
  | .ok o =>
    match f o.value o.rest with
    | .error e => .error e
    | .ok o' => .ok ⟨o'.value, o'.rest, Nat.le_trans o'.le o.le⟩

instance : Monad Reading where
  pure := Reading.pure
  bind := Reading.bind

def fail (e : Fault) : Reading α := fun _ => .error e

def ahead : Reading (List Char) := fun text => .ok ⟨text, text, Nat.le_refl _⟩

def peek? : Reading (Option Char) := fun text => .ok ⟨text.head?, text, Nat.le_refl _⟩

def drop (n : Nat) : Reading Unit := fun text => .ok ⟨(), text.drop n, by simp⟩

def skip (verbose : Bool) : Reading Unit := fun text =>
  .ok ⟨(), skipIgnored verbose text, skipIgnored_length verbose text⟩

def dropAndSkip (verbose : Bool) : Reading Unit := do
  drop 1
  skip verbose

def accept (word : String) : Reading Bool := do
  let text ← ahead
  if word.toList.isPrefixOf text then
    drop word.length
    return true
  else return false

def peekOr (e : Fault) : Reading Char := do
  match ← peek? with
  | some c => return c
  | none => fail e

def takeWhile (verbose : Bool) (p : Char → Bool) (text : List Char) :
    Except Fault (Outcome (List Char) text) :=
  match text with
  | [] => .ok ⟨[], [], Nat.le_refl _⟩
  | c :: rest =>
    if p c then
      match takeWhile verbose p (skipIgnored verbose rest) with
      | .error e => .error e
      | .ok o =>
        .ok ⟨c :: o.value, o.rest, by
          have := o.le
          have := skipIgnored_length verbose rest
          rw [List.length_cons]
          omega⟩
    else .ok ⟨[], c :: rest, Nat.le_refl _⟩
termination_by text.length
decreasing_by
  have := skipIgnored_length verbose rest
  rw [List.length_cons]
  omega

end Reading
end EventRouting.Pattern
