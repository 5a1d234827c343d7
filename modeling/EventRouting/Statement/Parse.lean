import EventRouting.Statement.Precedence

set_option autoImplicit false

/-!
# From tokens to expressions

A reader of a level takes tokens from a cursor and answers with an expression, the number of
tokens it took, and the nesting depth behind it. Brackets, parentheses, prefix negations and
each further operand of a chain stand one level deeper than what holds them, and at most
`maxDepth` levels are allowed, so that recursion over a tree is bounded along every path. The
depth is given back where the nested part ends.
-/
namespace EventRouting

inductive ParseError
  | unexpected (found : String) (position : Position) (expected : List String)
  | nestingTooDeep (found : String) (position : Position)
deriving DecidableEq

def maxDepth : Nat := 128

namespace ParseError

def position : ParseError → Position
  | .unexpected _ p _ => p
  | .nestingTooDeep _ p => p

def found : ParseError → String
  | .unexpected text _ _ => text
  | .nestingTooDeep text _ => text

def expected : ParseError → List String
  | .unexpected _ _ kinds => kinds
  | .nestingTooDeep _ _ => []

def message : ParseError → String
  | .unexpected text p kinds =>
    "Unexpected '" ++ text ++ "' at " ++ p.toText ++ ", expected " ++ " or ".intercalate kinds
  | .nestingTooDeep text p =>
    "Statement nests deeper than " ++ Text.digits 10 maxDepth ++ " levels at '" ++ text ++ "' ("
      ++ p.toText ++ ")"

end ParseError

def operandKinds : List String :=
  ["integer", "float", "boolean", "null", "string", "JSON pointer", "[", "("]

/-- What can begin an expression; `not` cannot follow an operator that binds tighter. -/
def expectedKinds (mayNegate : Bool) : List String :=
  if mayNegate then operandKinds ++ ["not"] else operandKinds

/-- The tokens still to read, the index of the first of them and the nesting depth it stands at,
and where the last token of the whole list is, which is the position of its end. -/
structure Cursor where
  rest : List Placed
  index : Nat
  depth : Nat
  last : Position

/-- A value read from a cursor, the number of tokens it took, and the depth behind it. -/
structure Parsed (α : Type) where
  value : α
  taken : Nat
  depth : Nat

namespace Cursor

def ofTokens (tokens : List Placed) : Cursor :=
  ⟨tokens, 0, 0, (tokens.getLast?.map (·.position)).getD .start⟩

def token (s : Cursor) : Token :=
  match s.rest with
  | [] => .eof
  | t :: _ => t.token

def position (s : Cursor) : Position :=
  match s.rest with
  | [] => s.last
  | t :: _ => t.position

def skip (s : Cursor) (n : Nat) : Cursor := ⟨s.rest.drop n, s.index + n, s.depth, s.last⟩

def deeper (s : Cursor) : Cursor := ⟨s.rest, s.index, s.depth + 1, s.last⟩

def after {α : Type} (s : Cursor) (p : Parsed α) : Cursor :=
  ⟨s.rest.drop p.taken, s.index + p.taken, p.depth, s.last⟩

def unexpected (s : Cursor) (kinds : List String) : ParseError :=
  .unexpected s.token.toText s.position kinds

def tooDeep (s : Cursor) : ParseError := .nestingTooDeep s.token.toText s.position

end Cursor

inductive Reader
  | phrase (level : Level)
  | items
deriving DecidableEq, Repr

/-- What the readers do besides going on with one another. -/
class Reading (m : Type → Type) [Monad m] where
  fail {α : Type} (e : ParseError) : m α
  /-- A reader works on a cursor. -/
  within {α : Type} (reader : Reader) (s : Cursor) (work : m (Parsed α)) : m (Parsed α)
  /-- A level of nesting is given back, from this depth. -/
  surface (depth : Nat) : m Unit
  /-- A comparison begins where a negation could. -/
  plain (s : Cursor) : m Unit
  /-- What can begin an operand here. -/
  expected (mayNegate : Bool) (s : Cursor) : m (List String)

instance : Reading (Except ParseError) where
  fail := .error
  within _ _ work := work
  surface _ := return
  plain _ := return
  expected mayNegate _ := return expectedKinds mayNegate

namespace Cursor

open Reading

variable {m : Type → Type} [Monad m] [Reading m]

mutual

/-- Reads an expression of a level. `mayNegate` says whether `not` could stand here. -/
def phrase (level : Level) (mayNegate : Bool) (s : Cursor) : m (Parsed Expr) :=
  within (.phrase level) s (phraseBody level mayNegate s)
termination_by s.rest.length * 32 + 3 * level.rank + 2

def phraseBody (level : Level) (mayNegate : Bool) (s : Cursor) : m (Parsed Expr) :=
  match level with
  | .chain c => do
    let first ← phrase c.operand mayNegate s
    let all ← operands c s.depth first.value (s.after first)
    return ⟨all.value, first.taken + all.taken, all.depth⟩
  | .negation =>
    match _h : s.rest with
    | ⟨.not, _⟩ :: _ =>
      if s.depth < maxDepth then do
        let operand ← phrase .negation true (s.skip 1).deeper
        surface operand.depth
        return ⟨.not operand.value, operand.taken + 1, operand.depth - 1⟩
      else fail (s.skip 1).tooDeep
    | _ => do
      plain s
      phrase (.chain .equality) true s
  | .primary =>
    match s.token.leaf? with
    | some leaf => return ⟨leaf, 1, s.depth⟩
    | none =>
      match _h : s.rest with
      | ⟨.leftBracket, _⟩ :: _ =>
        if s.depth < maxDepth then do
          let list ← items (s.skip 1).deeper
          surface list.depth
          return ⟨.list list.value, list.taken + 1, list.depth - 1⟩
        else fail (s.skip 1).tooDeep
      | ⟨.leftParen, _⟩ :: _ =>
        if s.depth < maxDepth then do
          let inner := (s.skip 1).deeper
          let content ← phrase (.chain .disjunction) true inner
          match (inner.after content).token with
          | .rightParen =>
            surface content.depth
            return ⟨content.value, content.taken + 2, content.depth - 1⟩
          | _ => fail ((inner.after content).unexpected [")"])
        else fail (s.skip 1).tooDeep
      | _ => do
        let kinds ← expected mayNegate s
        fail (s.unexpected kinds)
termination_by s.rest.length * 32 + 3 * level.rank + 1
decreasing_by
  · have := c.rank_operand_lt
    omega
  · simp only [after, List.length_drop]
    omega
  · simp only [_h, skip, deeper, List.length_drop, List.length_cons]
    omega
  · simp [Level.rank]
  all_goals
    simp only [_h, skip, deeper, List.length_drop, List.length_cons, Level.rank]
    omega

/-- Reads the further operands of a chain behind `left`. The chain stands at depth `base`. -/
def operands (c : Chain) (base : Nat) (left : Expr) (s : Cursor) : m (Parsed Expr) :=
  match _h : c.operator? s.rest with
  | none => return ⟨left, 0, base⟩
  | some (op, length) =>
    if s.depth < maxDepth then do
      let inner := (s.skip length).deeper
      let right ← phrase c.operand false inner
      let more ← operands c base (.binary op left right.value) (inner.after right)
      return ⟨more.value, length + right.taken + more.taken, more.depth⟩
    else fail (s.skip length).tooDeep
termination_by s.rest.length * 32 + 3 * (Level.chain c).rank
decreasing_by
  all_goals
    have := Chain.operator?_length _h
    have := c.operand.rank_le
    have := c.rank_pos
    simp only [skip, deeper, after, List.length_drop]
    omega

def items (s : Cursor) : m (Parsed (List Expr)) :=
  within .items s (itemsBody s)
termination_by s.rest.length * 32 + 23

def itemsBody (s : Cursor) : m (Parsed (List Expr)) :=
  match s.rest with
  | ⟨.rightBracket, _⟩ :: _ => return ⟨[], 1, s.depth⟩
  | _ => moreItems s
termination_by s.rest.length * 32 + 22

def moreItems (s : Cursor) : m (Parsed (List Expr)) := do
  let item ← phrase (.chain .disjunction) true s
  match _h : (s.after item).rest with
  | ⟨.rightBracket, _⟩ :: _ => return ⟨[item.value], item.taken + 1, item.depth⟩
  | ⟨.comma, _⟩ :: _ =>
    let more ← moreItems ((s.after item).skip 1)
    return ⟨item.value :: more.value, item.taken + 1 + more.taken, more.depth⟩
  | _ => fail ((s.after item).unexpected [",", "]"])
termination_by s.rest.length * 32 + 21
decreasing_by
  · simp [Level.rank]
  · have := congrArg List.length _h
    simp only [after, List.length_drop, List.length_cons] at this
    simp only [skip, after, List.length_drop]
    omega

end

def read (level : Level) (mayNegate : Bool) (s : Cursor) : Except ParseError (Parsed Expr) :=
  s.phrase level mayNegate

def readChain (c : Chain) (base : Nat) (left : Expr) (s : Cursor) :
    Except ParseError (Parsed Expr) :=
  s.operands c base left

def readItems (s : Cursor) : Except ParseError (Parsed (List Expr)) := s.items

def readMoreItems (s : Cursor) : Except ParseError (Parsed (List Expr)) := s.moreItems

def readExpression (s : Cursor) : Except ParseError (Parsed Expr) :=
  s.read (.chain .disjunction) true

end Cursor

def parseExpression (tokens : List Placed) : Except ParseError Expr :=
  (Cursor.ofTokens tokens).readExpression.map (·.value)

def statement {m : Type → Type} [Monad m] [Reading m] (tokens : List Placed) : m Expr := do
  let s := Cursor.ofTokens tokens
  let all ← s.phrase (.chain .disjunction) true
  match (s.after all).token with
  | .eof => return all.value
  | _ => Reading.fail ((s.after all).unexpected [Token.eof.toText])

def parse (tokens : List Placed) : Except ParseError Expr := statement tokens

end EventRouting
