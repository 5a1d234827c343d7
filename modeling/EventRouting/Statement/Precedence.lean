import EventRouting.Statement.Expr
import EventRouting.Statement.Token

set_option autoImplicit false

namespace EventRouting

inductive Chain
  | disjunction
  | conjunction
  | equality
  | relation
  | membership
deriving DecidableEq, Repr

inductive Level
  | chain (c : Chain)
  | negation
  | primary
deriving DecidableEq, Repr

def Chain.operand : Chain → Level
  | .disjunction => .chain .conjunction
  | .conjunction => .negation
  | .equality => .chain .relation
  | .relation => .chain .membership
  | .membership => .primary

/-- The operator of a chain that a token list begins with, and the number of its tokens. -/
def Chain.operator? : Chain → List Placed → Option (Operator × Nat)
  | .disjunction, ⟨.or, _⟩ :: _ => some (.or, 1)
  | .conjunction, ⟨.and, _⟩ :: _ => some (.and, 1)
  | .equality, ⟨.equal, _⟩ :: _ => some (.equal, 1)
  | .equality, ⟨.notEqual, _⟩ :: _ => some (.notEqual, 1)
  | .equality, ⟨.matches, _⟩ :: _ => some (.matches, 1)
  | .equality, ⟨.notMatches, _⟩ :: _ => some (.notMatches, 1)
  | .relation, ⟨.less, _⟩ :: _ => some (.less, 1)
  | .relation, ⟨.greater, _⟩ :: _ => some (.greater, 1)
  | .relation, ⟨.lessEqual, _⟩ :: _ => some (.lessEqual, 1)
  | .relation, ⟨.greaterEqual, _⟩ :: _ => some (.greaterEqual, 1)
  | .membership, ⟨.member, _⟩ :: _ => some (.member, 1)
  | .membership, ⟨.not, _⟩ :: ⟨.member, _⟩ :: _ => some (.notMember, 2)
  | _, _ => none

def Level.rank : Level → Nat
  | .primary => 0
  | .chain .membership => 1
  | .chain .relation => 2
  | .chain .equality => 3
  | .negation => 4
  | .chain .conjunction => 5
  | .chain .disjunction => 6

theorem Chain.rank_operand_lt (c : Chain) : c.operand.rank < (Level.chain c).rank := by
  cases c <;> decide

theorem Chain.rank_pos (c : Chain) : 0 < (Level.chain c).rank := by
  cases c <;> decide

theorem Level.rank_le (level : Level) : level.rank ≤ 6 := by
  rcases level with c | _ | _
  · cases c <;> decide
  · decide
  · decide

theorem Chain.operator?_length {c : Chain} {ts : List Placed} {op : Operator} {n : Nat}
    (h : c.operator? ts = some (op, n)) : 0 < n ∧ n ≤ ts.length := by
  unfold operator? at h
  split at h <;> simp at h <;> obtain ⟨_, rfl⟩ := h <;> simp

def Token.leaf? : Token → Option Expr
  | .float x => some (.float x)
  | .integer n => some (.integer n)
  | .string s => some (.string s)
  | .boolean b => some (.boolean b)
  | .null => some .null
  | .pointer p => some (.pointer p)
  | _ => none

end EventRouting
