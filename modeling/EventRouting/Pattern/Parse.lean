import EventRouting.Pattern.ClassSyntax

set_option autoImplicit false

namespace EventRouting.Pattern

open Reading

def maxHeight : Nat := 250

/-- What stands behind an opening parenthesis: the flags of a non-capturing group or none, or
flags that hold from there on, and the name of a capture group if it has one. -/
inductive GroupHead
  | group (settings : FlagSettings)
  | named (name : List Char)
  | flags (settings : FlagSettings)

def flag? : Char → Option Flag
  | 'i' => some .caseInsensitive
  | 'm' => some .multiLine
  | 's' => some .dotAll
  | 'U' => some .swapGreed
  | 'u' => some .unicode
  | 'R' => some .carriageReturn
  | 'x' => some .verbose
  | _ => none

def flagSettings (negated : Bool) : List Char → Except Fault FlagSettings
  | [] => .ok []
  | ['-'] => .error (if negated then .flagRepeatedNegation else .flagDanglingNegation)
  | '-' :: rest => if negated then .error .flagRepeatedNegation else flagSettings true rest
  | c :: rest =>
    match flag? c with
    | none => .error .unknownFlag
    | some flag => do
      let settings ← flagSettings negated rest
      if settings.any fun s => s.1 = flag then .error .duplicateFlag
      else return (flag, !negated) :: settings

def isNameStart (c : Char) : Bool := c = '_' || Text.isAlphabetic c

def isNameChar (c : Char) : Bool :=
  c = '_' || c = '.' || c = '[' || c = ']' || Text.isAlphanumeric c

def groupName : Reading GroupHead := do
  let name ← takeWhile false (· != '>')
  if name.isEmpty then
    let _ ← peekOr .groupNameUnclosed
    fail .emptyGroupName
  else if !(name.take 1).all isNameStart || !(name.drop 1).all isNameChar then
    fail .groupNameInvalid
  else
    let _ ← peekOr .groupNameUnclosed
    drop 1
    return .named name

def groupHead (verbose : Bool) : Reading GroupHead := do
  skip verbose
  let text ← ahead
  if ["?=", "?!", "?<=", "?<!"].any fun word => word.toList.isPrefixOf text then fail .lookAround
  else if (← accept "?P<") || (← accept "?<") then groupName
  else if ← accept "?" then
    let letters ← takeWhile false fun c => c != ':' && c != ')'
    let c ← peekOr .flagsUnclosed
    drop 1
    match flagSettings false letters with
    | .error e => fail e
    | .ok settings =>
      if c = ':' then return .group settings
      else if settings.isEmpty then fail .repetitionMissing
      else return .flags settings
  else return .group []

structure GroupFrame where
  settings : FlagSettings
  parts : List Tree
  branches : List Tree
  verbose : Bool

/-- The parts of the branch that is read and the branches before it in the innermost open
group, the open groups, whether verbose mode is on, and the names of the capture groups. The
latest stand first. -/
structure Progress where
  parts : List Tree
  branches : List Tree
  stack : List GroupFrame
  verbose : Bool
  names : List (List Char)

namespace Progress

def start : Progress := ⟨[], [], [], false, []⟩

def push (s : Progress) (part : Tree) : Progress := { s with parts := part :: s.parts }

def content (s : Progress) : Tree :=
  let last := Tree.ofParts s.parts.reverse
  match s.branches with
  | [] => last
  | branches => .alternation (last :: branches).reverse

def verboseAfter (verbose : Bool) (settings : FlagSettings) : Bool :=
  match settings.find? fun s => s.1 = .verbose with
  | some (_, on) => on
  | none => verbose

def openGroup (s : Progress) (settings : FlagSettings) : Progress :=
  ⟨[], [], ⟨settings, s.parts, s.branches, s.verbose⟩ :: s.stack,
    verboseAfter s.verbose settings, s.names⟩

def begin (s : Progress) : GroupHead → Except Fault Progress
  | .group settings => .ok (s.openGroup settings)
  | .named name =>
    if s.names.contains name then .error .duplicateGroupName
    else .ok { s.openGroup [] with names := name :: s.names }
  | .flags settings =>
    .ok { s.push (.flags settings) with verbose := verboseAfter s.verbose settings }

def closeGroup (s : Progress) : Except Fault Progress :=
  match s.stack with
  | [] => .error .groupUnopened
  | frame :: below =>
    .ok ⟨.group frame.settings s.content :: frame.parts, frame.branches, below, frame.verbose,
      s.names⟩

def alternate (s : Progress) : Progress :=
  { s with parts := [], branches := Tree.ofParts s.parts.reverse :: s.branches }

def repeatLast (s : Progress) (least : Nat) (greatest : Option Nat) : Except Fault Progress :=
  match s.parts with
  | [] => .error .repetitionMissing
  | .flags _ :: _ => .error .repetitionMissing
  | part :: before => .ok { s with parts := .repetition part least greatest :: before }

def finish (s : Progress) : Except Fault Tree :=
  if s.stack.isEmpty then .ok s.content else .error .groupUnclosed

end Progress

/-- The sign behind a repetition that makes it lazy changes nothing about what it matches. -/
def lazySign : Reading Unit := do
  if (← peek?) = some '?' then drop 1

def element (s : Progress) (c : Char) : Reading Progress := do
  let ofExcept (r : Except Fault Progress) : Reading Progress :=
    match r with
    | .ok s => return s
    | .error e => fail e
  match c with
  | '(' => ofExcept (s.begin (← groupHead s.verbose))
  | ')' => ofExcept s.closeGroup
  | '|' => return s.alternate
  | '[' => return s.push (← bracketed s.verbose)
  | '?' =>
    lazySign
    ofExcept (s.repeatLast 0 (some 1))
  | '*' =>
    lazySign
    ofExcept (s.repeatLast 0 none)
  | '+' =>
    lazySign
    ofExcept (s.repeatLast 1 none)
  | '\x7b' =>
    let (least, greatest) ← counts s.verbose
    ofExcept (s.repeatLast least greatest)
  | '\\' => return s.push (.primitive (← escape s.verbose))
  | '.' => return s.push (.primitive .dot)
  | '^' => return s.push (.primitive (.assertion .lineStart))
  | '$' => return s.push (.primitive (.assertion .lineEnd))
  | c => return s.push (.primitive (.literal (plain c)))

def elements (s : Progress) (text : List Char) : Except Fault Tree :=
  match _h : skipIgnored s.verbose text with
  | [] => s.finish
  | c :: rest =>
    match element s c rest with
    | .error e => .error e
    | .ok ⟨s', rest', _hle⟩ => elements s' rest'
termination_by text.length
decreasing_by
  have := skipIgnored_lt _h
  omega

def parse (text : String) : Except Fault Tree := do
  let tree ← elements .start text.toList
  if tree.height ≤ maxHeight then return tree else .error .nestingTooDeep

end EventRouting.Pattern
