import EventRouting.Statement.Parse

set_option autoImplicit false

namespace EventRouting

/-- A reader at work, with the index of the token and the depth at which it began. -/
structure Activation where
  reader : Reader
  index : Nat
  depth : Nat
deriving DecidableEq, Repr

inductive Step
  | begin (reader : Activation)
  /-- The reader that began last has an answer, at this index and depth. -/
  | finish (index depth : Nat)
  /-- A level of nesting is given back, from this depth. -/
  | surface (depth : Nat)
deriving DecidableEq, Repr

/-- The readers at work behind a step, the latest first. -/
def Step.after (active : List Activation) : Step → List Activation
  | .begin reader => reader :: active
  | .finish _ _ => active.tail
  | .surface _ => active

def activeAfter (steps : List Step) : List Activation := steps.foldl Step.after []

/-- The result of a computation, with the steps up to it or up to the failure. -/
structure Recorded (α : Type) where
  steps : List Step
  result : Except ParseError α

namespace Recorded

variable {α β : Type}

def bind (x : Recorded α) (f : α → Recorded β) : Recorded β :=
  match x.result with
  | .ok a => ⟨x.steps ++ (f a).steps, (f a).result⟩
  | .error e => ⟨x.steps, .error e⟩

instance : Monad Recorded where
  pure a := ⟨[], .ok a⟩
  bind := bind

def fail (e : ParseError) : Recorded α := ⟨[], .error e⟩

def note (step : Step) : Recorded Unit := ⟨[step], .ok ()⟩

def within (reader : Reader) (s : Cursor) (work : Recorded (Parsed α)) : Recorded (Parsed α) := do
  note (.begin ⟨reader, s.index, s.depth⟩)
  let r ← work
  note (.finish (s.index + r.taken) r.depth)
  return r

instance : Reading Recorded where
  fail := fail
  within := within
  surface depth := note (.surface depth)
  plain _ := return
  expected mayNegate _ := return expectedKinds mayNegate

end Recorded

def recordParse (tokens : List Placed) : Recorded Expr := statement tokens

end EventRouting
