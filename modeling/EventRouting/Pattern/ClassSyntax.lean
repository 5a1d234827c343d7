import EventRouting.Pattern.Primitive

set_option autoImplicit false

namespace EventRouting.Pattern

open Reading

def plain (c : Char) : Literal := ⟨c, false⟩

def classItem : Primitive → Reading ClassItem
  | .literal l => return .literal l
  | .letterClass kind negated => return .letterClass kind negated
  | .property name negated => return .property name negated
  | _ => fail .classEscapeInvalid

def rangeBound : Primitive → Reading Literal
  | .literal l => return l
  | _ => fail .classRangeBound

def classPrimitive (verbose : Bool) (c : Char) : Reading Primitive :=
  if c = '\\' then escape verbose else return .literal (plain c)

/-- The character that a hyphen in a class is followed by. Of a comment only the sign that
begins it is passed over. -/
def behindHyphen? (verbose : Bool) (text : List Char) : Option Char :=
  if verbose then
    match text.dropWhile Text.isBlank with
    | '#' :: rest => (rest.dropWhile Text.isBlank).head?
    | rest => rest.head?
  else text.head?

def classRange (verbose : Bool) (c : Char) : Reading ClassItem := do
  let first ← classPrimitive verbose c
  skip verbose
  let c ← peekOr .classUnclosed
  let next := behindHyphen? verbose ((← ahead).drop 1)
  if c ≠ '-' ∨ next = some ']' ∨ next = some '-' then classItem first
  else
    dropAndSkip verbose
    let d ← peekOr .classUnclosed
    drop 1
    let last ← classPrimitive verbose d
    let first ← rangeBound first
    let last ← rangeBound last
    if first.char ≤ last.char then return .range first last else fail .classRangeInvalid

def asciiClass? (name : List Char) : Option AsciiClass :=
  match String.ofList name with
  | "alnum" => some .alnum
  | "alpha" => some .alpha
  | "ascii" => some .ascii
  | "blank" => some .blank
  | "cntrl" => some .cntrl
  | "digit" => some .digit
  | "graph" => some .graph
  | "lower" => some .lower
  | "print" => some .print
  | "punct" => some .punct
  | "space" => some .space
  | "upper" => some .upper
  | "word" => some .word
  | "xdigit" => some .xdigit
  | _ => none

/-- A named class such as `[:alpha:]` behind its opening bracket. Anything else there is a
nested class, and nothing is taken. -/
def namedClass? : Reading (Option ClassItem) := do
  match ← ahead with
  | ':' :: rest =>
    let (negated, body) := match rest with
      | '^' :: body => (true, body)
      | _ => (false, rest)
    let name := body.takeWhile (· != ':')
    match asciiClass? name, body.dropWhile (· != ':') with
    | some kind, ':' :: ']' :: _ =>
      drop (1 + (if negated then 1 else 0) + name.length + 2)
      return some (.ascii kind negated)
    | _, _ => return none
  | _ => return none

def classStart (verbose : Bool) : Reading (Bool × List ClassItem) := do
  skip verbose
  let negated := (← peekOr .classUnclosed) = '^'
  if negated then dropAndSkip verbose
  let hyphens ← takeWhile verbose (· = '-')
  let c ← peekOr .classUnclosed
  if hyphens.isEmpty && c = ']' then
    dropAndSkip verbose
    let _ ← peekOr .classUnclosed
    return (negated, [.literal (plain ']')])
  else return (negated, hyphens.map fun c => .literal (plain c))

/-- What an unfinished class stands in: an enclosing class with its items so far and whether
the inner one is negated, or an operator with its left operand. The latest items stand first. -/
inductive ClassFrame
  | enclosing (items : List ClassItem) (negated : Bool)
  | operation (op : SetOperator) (left : ClassContent)

def closeOperand (items : List ClassItem) (stack : List ClassFrame) :
    ClassContent × List ClassFrame :=
  match stack with
  | .operation op left :: rest => (.operation op left (.items items.reverse), rest)
  | _ => (.items items.reverse, stack)

def setOperator? : List Char → Option SetOperator
  | '&' :: '&' :: _ => some .intersection
  | '-' :: '-' :: _ => some .difference
  | '~' :: '~' :: _ => some .symmetricDifference
  | _ => none

def classBody (verbose : Bool) (items : List ClassItem) (stack : List ClassFrame)
    (text : List Char) : Except Fault (Outcome (Bool × ClassContent) text) :=
  match h : skipIgnored verbose text with
  | [] => .error .classUnclosed
  | c :: rest =>
    have hlt := skipIgnored_lt h
    if c = '[' then
      match namedClass? rest with
      | .error e => .error e
      | .ok ⟨some item, rest', hle⟩ =>
        (classBody verbose (item :: items) stack rest').map fun o =>
          ⟨o.value, o.rest, by have := o.le; omega⟩
      | .ok ⟨none, _, _⟩ =>
        match classStart verbose rest with
        | .error e => .error e
        | .ok ⟨(negated, first), rest', hle⟩ =>
          (classBody verbose first.reverse (.enclosing items negated :: stack) rest').map fun o =>
            ⟨o.value, o.rest, by have := o.le; omega⟩
    else if c = ']' then
      match closeOperand items stack with
      | (content, [.enclosing _ negated]) => .ok ⟨(negated, content), rest, by omega⟩
      | (content, .enclosing outer negated :: below) =>
        (classBody verbose (.nested negated content :: outer) below rest).map fun o =>
          ⟨o.value, o.rest, by have := o.le; omega⟩
      | _ => .error .classUnclosed
    else
      match setOperator? (c :: rest) with
      | some op =>
        let (left, below) := closeOperand items stack
        (classBody verbose [] (.operation op left :: below) (rest.drop 1)).map fun o =>
          ⟨o.value, o.rest, by have := o.le; simp only [List.length_drop] at this; omega⟩
      | none =>
        match classRange verbose c rest with
        | .error e => .error e
        | .ok ⟨item, rest', hle⟩ =>
          (classBody verbose (item :: items) stack rest').map fun o =>
            ⟨o.value, o.rest, by have := o.le; omega⟩
termination_by text.length
decreasing_by
  · omega
  · omega
  · omega
  · simp only [List.length_drop]; omega
  · omega

def bracketed (verbose : Bool) : Reading Tree := do
  let (negated, first) ← classStart verbose
  let (negated, content) ← classBody verbose first.reverse [.enclosing [] negated]
  return .bracketed negated content

end EventRouting.Pattern
