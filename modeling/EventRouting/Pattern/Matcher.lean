import EventRouting.Pattern.Classes

set_option autoImplicit false

namespace EventRouting.Pattern

inductive Look
  | textStart
  | textEnd
  | lineStart (anyEnding : Bool)
  | lineEnd (anyEnding : Bool)
  | wordBoundary (unicode negated : Bool)
  | wordStart (unicode : Bool)
  | wordEnd (unicode : Bool)
  | wordStartHalf (unicode : Bool)
  | wordEndHalf (unicode : Bool)
deriving DecidableEq, Repr

inductive Matcher
  | empty
  | chars (set : CharSet)
  | look (condition : Look)
  | sequence (parts : List Matcher)
  | choice (branches : List Matcher)
  | repetition (body : Matcher) (least : Nat) (greatest : Option Nat)
deriving Inhabited

structure Mode where
  caseInsensitive : Bool
  multiLine : Bool
  dotAll : Bool
  unicode : Bool
  carriageReturn : Bool

namespace Mode

def initial : Mode := ⟨false, false, false, true, false⟩

def set (m : Mode) : Flag → Bool → Mode
  | .caseInsensitive, on => { m with caseInsensitive := on }
  | .multiLine, on => { m with multiLine := on }
  | .dotAll, on => { m with dotAll := on }
  | .unicode, on => { m with unicode := on }
  | .carriageReturn, on => { m with carriageReturn := on }
  | .swapGreed, _ => m
  | .verbose, _ => m

def apply (m : Mode) (settings : FlagSettings) : Mode :=
  settings.foldl (fun m (flag, on) => m.set flag on) m

def look (m : Mode) : Assertion → Look
  | .lineStart => if m.multiLine then .lineStart m.carriageReturn else .textStart
  | .lineEnd => if m.multiLine then .lineEnd m.carriageReturn else .textEnd
  | .textStart => .textStart
  | .textEnd => .textEnd
  | .wordBoundary => .wordBoundary m.unicode false
  | .notWordBoundary => .wordBoundary m.unicode true
  | .wordStart => .wordStart m.unicode
  | .wordEnd => .wordEnd m.unicode
  | .wordStartHalf => .wordStartHalf m.unicode
  | .wordEndHalf => .wordEndHalf m.unicode

def fold (m : Mode) (s : CharSet) : CharSet :=
  if m.caseInsensitive then (if m.unicode then foldUnicode s else foldAscii s) else s

/-- A set or its complement. Without Unicode a complement holds bytes that are only parts of
characters, and is refused. -/
def negate (m : Mode) (negated : Bool) (s : CharSet) : Except Fault CharSet :=
  if negated then (if m.unicode then .ok s.complement else .error .partialCharacter) else .ok s

def literal (m : Mode) (l : Literal) : Except Fault Char :=
  if !m.unicode && l.asByte && !Text.isAscii l.char then .error .partialCharacter
  else .ok l.char

def classChar (m : Mode) (l : Literal) : Except Fault Char := do
  let c ← m.literal l
  if !m.unicode && !Text.isAscii c then .error .unicodeNotAllowed else return c

def letterClass (m : Mode) (kind : LetterClass) (negated : Bool) : Except Fault CharSet :=
  m.negate negated (if m.unicode then kind.unicode else kind.ascii)

def property (m : Mode) (name : PropertyName) (negated : Bool) : Except Fault CharSet :=
  if !m.unicode then .error .propertyWithoutUnicode
  else match name.characters? with
    | none => .error .propertyUnknown
    | some s => m.negate negated (m.fold s)

def dot (m : Mode) : Except Fault CharSet :=
  if !m.unicode then .error .partialCharacter
  else if m.dotAll then .ok CharSet.full
  else if m.carriageReturn then .ok (CharSet.ofList ['\n', '\r']).complement
  else .ok (CharSet.singleton '\n').complement

mutual

def classItem (m : Mode) : ClassItem → Except Fault CharSet
  | .literal l => return CharSet.singleton (← m.classChar l)
  | .range first last => return CharSet.interval (← m.classChar first) (← m.classChar last)
  | .ascii kind negated => m.negate negated (m.fold kind.characters)
  | .letterClass kind negated => m.letterClass kind negated
  | .property name negated => m.property name negated
  | .nested negated content => do m.negate negated (m.fold (← classContent m content))

/-- Without regard to case the operands of a set operator are folded before it is applied. -/
def classContent (m : Mode) : ClassContent → Except Fault CharSet
  | .items items => classItems m items
  | .operation op left right => do
    let left := m.fold (← classContent m left)
    let right := m.fold (← classContent m right)
    match op with
    | .intersection => return left.inter right
    | .difference => return left.diff right
    | .symmetricDifference => return left.symmDiff right

def classItems (m : Mode) : List ClassItem → Except Fault CharSet
  | [] => return CharSet.empty
  | item :: rest => return (← classItem m item).union (← classItems m rest)

end

def primitive (m : Mode) : Primitive → Except Fault Matcher
  | .literal l => return .chars (m.fold (CharSet.singleton (← m.literal l)))
  | .assertion a => return .look (m.look a)
  | .dot => return .chars (← m.dot)
  | .letterClass kind negated => return .chars (← m.letterClass kind negated)
  | .property name negated => return .chars (← m.property name negated)

end Mode

namespace Matcher

/-- A repetition; unbounded repetitions of optional, repeated or unbounded parts are one
repetition. -/
def repeated (body : Matcher) (least : Nat) (greatest : Option Nat) : Matcher :=
  match body, greatest with
  | .repetition inner innerLeast none, none =>
    if innerLeast ≤ 1 ∧ least ≤ 1 then .repetition inner (innerLeast * least) none
    else .repetition body least none
  | .repetition inner 0 (some 1), none =>
    if least ≤ 1 then .repetition inner 0 none else .repetition body least none
  | _, _ => .repetition body least greatest

mutual

def ofTree (mode : Mode) : Tree → Except Fault (Matcher × Mode)
  | .empty => return (.empty, mode)
  | .flags settings => return (.empty, mode.apply settings)
  | .primitive p => return (← mode.primitive p, mode)
  | .bracketed negated content => do
    let set ← mode.negate negated (mode.fold (← mode.classContent content))
    return (.chars set, mode)
  | .repetition body least greatest => do
    let (body, mode) ← ofTree mode body
    return (repeated body least greatest, mode)
  | .group settings body => do
    let (body, _) ← ofTree (mode.apply settings) body
    return (body, mode)
  | .alternation branches => do
    let (branches, mode) ← ofTrees mode branches
    return (.choice branches, mode)
  | .concat parts => do
    let (parts, mode) ← ofTrees mode parts
    return (.sequence parts, mode)

def ofTrees (mode : Mode) : List Tree → Except Fault (List Matcher × Mode)
  | [] => return ([], mode)
  | t :: rest => do
    let (first, mode) ← ofTree mode t
    let (others, mode) ← ofTrees mode rest
    return (first :: others, mode)

end

end Matcher
end EventRouting.Pattern
