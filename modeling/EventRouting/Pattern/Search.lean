import EventRouting.Evaluation.PatternEngine
import EventRouting.Pattern.Matcher
import EventRouting.Pattern.Parse

set_option autoImplicit false

/-!
# Searching a text

A set of places in a text is a number in which bit `i` stands for the place behind `i`
characters. A matcher takes the set of places where a match may start to the set of places where
one ends, so a repetition is worked off in as many rounds as the text is long and a search never
backtracks.
-/
namespace EventRouting.Pattern

abbrev Place := Option Char × Option Char

def places (text : List Char) : List Place :=
  (none :: text.map some).zip (text.map some ++ [none])

def indexSet {α : Type} (p : α → Bool) : List α → Nat
  | [] => 0
  | a :: rest => 2 * indexSet p rest + (if p a then 1 else 0)

namespace Look

def isWord (unicode : Bool) : Option Char → Bool
  | none => false
  | some c =>
    if Text.isAscii c then Text.isAsciiAlphanumeric c || c = '_'
    else unicode && LetterClass.word.unicode.contains c

def holds (condition : Look) (place : Place) : Bool :=
  let (before, behind) := place
  match condition with
  | .textStart => before.isNone
  | .textEnd => behind.isNone
  | .lineStart false => before.isNone || before = some '\n'
  | .lineEnd false => behind.isNone || behind = some '\n'
  | .lineStart true =>
    before.isNone || before = some '\n' || before = some '\r' && behind ≠ some '\n'
  | .lineEnd true =>
    behind.isNone || behind = some '\r' || behind = some '\n' && before ≠ some '\r'
  | .wordBoundary unicode negated => (isWord unicode before != isWord unicode behind) != negated
  | .wordStart unicode => !isWord unicode before && isWord unicode behind
  | .wordEnd unicode => isWord unicode before && !isWord unicode behind
  | .wordStartHalf unicode => !isWord unicode before
  | .wordEndHalf unicode => !isWord unicode behind

end Look

/-- A matcher for one text: characters and conditions are the sets of places they hold at. -/
inductive Located
  | stay
  | step (places : Nat)
  | check (places : Nat)
  | sequence (parts : List Located)
  | choice (branches : List Located)
  | repetition (body : Located) (least : Nat) (greatest : Option Nat)

mutual

def Matcher.locate (text : List Char) : Matcher → Located
  | .empty => .stay
  | .chars set => .step (indexSet set.contains text)
  | .look condition => .check (indexSet condition.holds (places text))
  | .sequence parts => .sequence (locateAll text parts)
  | .choice branches => .choice (locateAll text branches)
  | .repetition body least greatest => .repetition (body.locate text) least greatest

def locateAll (text : List Char) : List Matcher → List Located
  | [] => []
  | m :: rest => m.locate text :: locateAll text rest

end

def iterate (f : Nat → Nat) : Nat → Nat → Nat
  | 0, s => s
  | n + 1, s =>
    let t := f s
    if t = s then s else iterate f n t

def spread (f : Nat → Nat) : Nat → Nat → Nat → Nat
  | 0, seen, _ => seen
  | n + 1, seen, frontier =>
    let reached := f frontier
    let fresh := reached ^^^ (reached &&& seen)
    if fresh = 0 then seen else spread f n (seen ||| fresh) fresh

mutual

/-- The places where a match ends that starts at one of `starts`; `rounds` bounds the rounds of
an unbounded repetition. -/
def Located.ends (rounds : Nat) : Located → Nat → Nat
  | .stay, starts => starts
  | .step places, starts => (starts &&& places) <<< 1
  | .check places, starts => starts &&& places
  | .sequence parts, starts => sequenceEnds rounds parts starts
  | .choice branches, starts => choiceEnds rounds branches starts
  | .repetition body least greatest, starts =>
    let f := body.ends rounds
    let reached := iterate f least starts
    let more := match greatest with
      | none => rounds
      | some n => min (n - least) rounds
    spread f more reached reached

def sequenceEnds (rounds : Nat) : List Located → Nat → Nat
  | [], starts => starts
  | part :: rest, starts => sequenceEnds rounds rest (part.ends rounds starts)

def choiceEnds (rounds : Nat) : List Located → Nat → Nat
  | [], _ => 0
  | branch :: rest, starts => branch.ends rounds starts ||| choiceEnds rounds rest starts

end

def Matcher.search (m : Matcher) (text : List Char) : Bool :=
  (m.locate text).ends (text.length + 1) (2 ^ (text.length + 1) - 1) ≠ 0

end EventRouting.Pattern

namespace EventRouting

structure Pattern where
  matcher : Pattern.Matcher
deriving Inhabited

namespace Pattern

def compile (text : String) : Except Fault Pattern := do
  let (matcher, _) ← Matcher.ofTree .initial (← parse text)
  return ⟨matcher⟩

def isMatch (p : Pattern) (text : String) : Bool := p.matcher.search text.toList

def engine : PatternEngine where
  Compiled := Pattern
  compile text := (compile text).mapError fun fault => "regex parse error: " ++ fault.message
  isMatch := isMatch

end Pattern
end EventRouting
