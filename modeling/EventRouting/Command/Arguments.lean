set_option autoImplicit false

/-!
# Command line arguments

An option has a long name behind two hyphens and may have a letter behind one. It is a switch,
or it takes a value: the next argument, or what follows an equals sign, or what follows the
letter in the same argument. Letters of switches can be run together. An argument that begins
with a hyphen is no value, a lone hyphen apart, and behind `--` everything is positional. No
option can be given twice.
-/
namespace EventRouting.Arguments

structure OptionSpec where
  long : String
  letter : Option Char
  takesValue : Bool
deriving DecidableEq

structure Given where
  long : String
  value : String
deriving DecidableEq

/-- The arguments read so far: positional ones and options, the latest first, and the option
whose value must come next. -/
structure State where
  positional : List String
  given : List Given
  pending : Option OptionSpec

def State.start : State := ⟨[], [], none⟩

/-- Records an option unless it was given before. -/
def State.give (s : State) (option : OptionSpec) (value : String) : Option State :=
  if s.given.any fun g => g.long = option.long then none
  else some { s with given := ⟨option.long, value⟩ :: s.given, pending := none }

def State.long (specs : List OptionSpec) (s : State) (body : List Char) : Option State := do
  let name := String.ofList (body.takeWhile (· != '='))
  let option ← specs.find? fun o => o.long = name
  match body.dropWhile (· != '='), option.takesValue with
  | '=' :: value, true => s.give option (String.ofList value)
  | _, true => some { s with pending := some option }
  | [], false => s.give option ""
  | _, false => none

def State.letters (specs : List OptionSpec) (s : State) : List Char → Option State
  | [] => some s
  | c :: rest => do
    let option ← specs.find? fun o => o.letter = some c
    match option.takesValue, rest with
    | false, _ => (← s.give option "").letters specs rest
    | true, [] => some { s with pending := some option }
    | true, '=' :: value => s.give option (String.ofList value)
    | true, value => s.give option (String.ofList value)

def State.read (specs : List OptionSpec) (s : State) : List String → Option State
  | [] => if s.pending.isSome then none else some s
  | arg :: rest =>
    match s.pending, arg.toList with
    | none, ['-', '-'] => some { s with positional := rest.reverse ++ s.positional }
    | none, '-' :: '-' :: body => do (← s.long specs body).read specs rest
    | none, '-' :: c :: letters => do (← s.letters specs (c :: letters)).read specs rest
    | some _, '-' :: _ :: _ => none
    | some option, _ => do (← s.give option arg).read specs rest
    | none, _ => ({ s with positional := arg :: s.positional } : State).read specs rest

structure Parsed where
  positional : List String
  given : List Given

def parse (specs : List OptionSpec) (args : List String) : Option Parsed :=
  (State.start.read specs args).map fun s => ⟨s.positional.reverse, s.given.reverse⟩

namespace Parsed

def has (p : Parsed) (long : String) : Bool := p.given.any fun g => g.long = long

def value? (p : Parsed) (long : String) : Option String :=
  (p.given.find? fun g => g.long = long).map (·.value)

end Parsed
end EventRouting.Arguments
