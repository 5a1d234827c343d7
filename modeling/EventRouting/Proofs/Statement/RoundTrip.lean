import EventRouting.Proofs.Statement.Compiling

set_option autoImplicit false

namespace EventRouting

namespace Operator

def tokens : Operator → List Token
  | .equal => [.equal]
  | .notEqual => [.notEqual]
  | .matches => [.matches]
  | .notMatches => [.notMatches]
  | .less => [.less]
  | .greater => [.greater]
  | .lessEqual => [.lessEqual]
  | .greaterEqual => [.greaterEqual]
  | .member => [.member]
  | .notMember => [.not, .member]
  | .and => [.and]
  | .or => [.or]

def chain : Operator → Chain
  | .equal | .notEqual | .matches | .notMatches => .equality
  | .less | .greater | .lessEqual | .greaterEqual => .relation
  | .member | .notMember => .membership
  | .and => .conjunction
  | .or => .disjunction

theorem joint (op : Operator) : op.chain.Joint op.tokens op := by
  cases op <;> constructor

theorem reads (op : Operator) : Reads op.symbol.toList op.tokens := by
  cases op with
  | notMember =>
    have hnot : Reads ['n', 'o', 't'] [.not] := Reads.written trivial
    have hmember : Reads ['i', 'n'] [.member] := Reads.written trivial
    exact hnot.append hmember.blank fun rest _ => Delimited.cons (by decide) _
  | _ => exact Reads.written trivial

theorem reads_between (op : Operator) {cs ds : List Char} {ts us : List Token}
    (h : Reads cs ts) (h' : Reads ds us) :
    Reads (cs ++ ' ' :: op.symbol.toList ++ ' ' :: ds) (ts ++ (op.tokens ++ us)) := by
  have hop := (op.reads.append h'.blank fun _ _ => Delimited.cons (by decide) _).blank
  rw [List.append_assoc, List.cons_append]
  exact h.append hop fun _ _ => Delimited.cons (by decide) _

end Operator

namespace Expr

def isOperation : Expr → Bool
  | .not _ => true
  | .binary _ _ _ => true
  | _ => false

mutual

/-- How deep the canonical text of an expression nests. -/
def cost : Expr → Nat
  | .list items => 1 + maxCost items
  | .not operand => 1 + (if operand.isOperation then 1 + cost operand else cost operand)
  | .binary _ left right =>
    max (if left.isOperation then 1 + cost left else cost left)
      (1 + if right.isOperation then 1 + cost right else cost right)
  | _ => 0

def maxCost : List Expr → Nat
  | [] => 0
  | item :: rest => max (cost item) (maxCost rest)

end

def operandCost (e : Expr) : Nat := if e.isOperation then 1 + e.cost else e.cost

mutual

/-- Every float literal is finite, and every pointer has a segment. -/
def Writable : Expr → Prop
  | .float x => x.isFinite = true
  | .pointer p => p.segments ≠ []
  | .list items => AllWritable items
  | .not operand => Writable operand
  | .binary _ left right => Writable left ∧ Writable right
  | _ => True

def AllWritable : List Expr → Prop
  | [] => True
  | item :: rest => Writable item ∧ AllWritable rest

end

def inParensTokens (nested : Bool) (ts : List Token) : List Token :=
  if nested then .leftParen :: (ts ++ [.rightParen]) else ts

mutual

def canonicalTokens (nested : Bool) : Expr → List Token
  | .float x => [.float x]
  | .integer n => [.integer n]
  | .string s => [.string s]
  | .boolean b => [.boolean b]
  | .null => [.null]
  | .pointer p => [.pointer p]
  | .list items => .leftBracket :: (canonicalItemTokens items ++ [.rightBracket])
  | .not operand => inParensTokens nested (.not :: canonicalTokens true operand)
  | .binary op left right =>
    inParensTokens nested
      (canonicalTokens true left ++ (op.tokens ++ canonicalTokens true right))

def canonicalItemTokens : List Expr → List Token
  | [] => []
  | [item] => canonicalTokens false item
  | item :: rest => canonicalTokens false item ++ .comma :: canonicalItemTokens rest

end

def level : Expr → Level
  | .not _ => .negation
  | .binary op _ _ => .chain op.chain
  | _ => .primary

theorem level_rank_le (e : Expr) : e.level.rank ≤ (Level.chain .disjunction).rank :=
  e.level.rank_le

theorem derives_operand {e : Expr}
    (h : ∀ d, Derives e.level d (e.canonicalTokens false) e (d + e.cost)) (d : Nat) :
    Derives .primary d (e.canonicalTokens true) e (d + e.operandCost) := by
  have hparens (hoperation : e.isOperation = true)
      (htokens : e.canonicalTokens true =
        .leftParen :: (e.canonicalTokens false ++ [.rightParen])) :
      Derives .primary d (e.canonicalTokens true) e (d + e.operandCost) := by
    rw [htokens, operandCost, if_pos hoperation, ← Nat.add_assoc]
    exact .parens ((h (d + 1)).loosen e.level_rank_le)
  cases e with
  | not operand => exact hparens rfl rfl
  | binary op left right => exact hparens rfl rfl
  | _ => exact h d

mutual

theorem canonical_derives :
    ∀ (e : Expr) (d : Nat), Derives e.level d (e.canonicalTokens false) e (d + e.cost)
  | .float _, _ => .leaf rfl
  | .integer _, _ => .leaf rfl
  | .string _, _ => .leaf rfl
  | .boolean _, _ => .leaf rfl
  | .null, _ => .leaf rfl
  | .pointer _, _ => .leaf rfl
  | .list items, d => by
    by_cases hne : items = []
    · rw [hne]
      exact .emptyList
    · rw [cost, ← Nat.add_assoc]
      exact .list (canonicalItems_derives items hne (d + 1))
  | .not operand, d => by
    have hoperand := derives_operand (canonical_derives operand) (d + 1)
    rw [cost, ← Nat.add_assoc]
    exact .negation (hoperand.loosen (Nat.zero_le _))
  | .binary op left right, d => by
    have hleft := derives_operand (canonical_derives left) d
    have hright := derives_operand (canonical_derives right) (d + 1)
    have hrank : Level.primary.rank ≤ op.chain.operand.rank := Nat.zero_le _
    have hchain := Derives.chain (hleft.loosen hrank)
      (.more op.joint (hright.loosen hrank) .stop)
    rw [List.append_nil] at hchain
    have hpeak : d + (binary op left right).cost =
        max (d + left.operandCost) (max (d + 1 + right.operandCost) (d + 1)) := by
      rw [cost, ← operandCost, ← operandCost]
      omega
    rw [hpeak]
    exact hchain

theorem canonicalItems_derives :
    ∀ items : List Expr, items ≠ [] → ∀ d : Nat,
      DerivesItems d (canonicalItemTokens items) items (d + maxCost items)
  | [], hne, _ => absurd rfl hne
  | [item], _, d => by
    have hitem := (canonical_derives item d).loosen item.level_rank_le
    rw [maxCost, maxCost, Nat.max_zero]
    exact .one hitem
  | item :: next :: rest, _, d => by
    have hitem := (canonical_derives item d).loosen item.level_rank_le
    have hmore := canonicalItems_derives (next :: rest) (List.cons_ne_nil _ _) d
    rw [maxCost, ← Nat.add_max_add_left]
    exact .more hitem hmore

end

theorem reads_inParens {nested : Bool} {cs : List Char} {ts : List Token} (h : Reads cs ts) :
    Reads (inParens nested cs) (inParensTokens nested ts) := by
  cases nested with
  | false => exact h
  | true => exact h.inParens

mutual

theorem canonical_reads (nested : Bool) :
    ∀ e : Expr, e.Writable → Reads (e.canonicalChars nested) (e.canonicalTokens nested)
  | .float _, h => by
    rw [canonicalChars]
    exact Reads.written h
  | .integer _, _ => by
    rw [canonicalChars]
    exact Reads.written trivial
  | .string _, _ => by
    rw [canonicalChars]
    exact Reads.written trivial
  | .boolean b, _ => by
    rw [canonicalChars]
    cases b <;> exact Reads.written trivial
  | .null, _ => by
    rw [canonicalChars]
    exact Reads.written trivial
  | .pointer p, h => by
    have hchars : p.toChars = (Token.pointer p).written := String.toList_ofList.symm
    rw [canonicalChars, hchars]
    exact Reads.written h
  | .list items, h => by
    rw [canonicalChars]
    exact (canonicalItems_reads items h).inBrackets
  | .not operand, h => by
    rw [canonicalChars]
    exact reads_inParens (canonical_reads true operand h).negated
  | .binary op left right, h => by
    have hleft := canonical_reads true left h.1
    have hright := canonical_reads true right h.2
    rw [canonicalChars]
    exact reads_inParens (op.reads_between hleft hright)

theorem canonicalItems_reads :
    ∀ items : List Expr, AllWritable items →
      Reads (canonicalItems items) (canonicalItemTokens items)
  | [], _ => Reads.nil
  | [item], h => canonical_reads false item h.1
  | item :: next :: rest, h => by
    have hitem := canonical_reads false item h.1
    have hmore := (canonicalItems_reads (next :: rest) h.2).blank
    rw [canonicalItems]
    · exact hitem.listed hmore
    · simp

end

end Expr

theorem Expr.Writable.compile_eq {e : Expr} (h : e.Writable) :
    e.cost ≤ maxDepth ∧ Statement.compile e.toStatement = .ok ⟨e.toStatement, e⟩ ∨
      maxDepth < e.cost ∧ ∃ found position, Statement.compile e.toStatement =
        .error ⟨e.toStatement, .parse (.nestingTooDeep found position)⟩ := by
  have hderives := (canonical_derives e 0).loosen e.level_rank_le
  rw [Nat.zero_add] at hderives
  exact (canonical_reads false e h).compile_eq hderives

theorem Statement.compile_canonical {e : Expr} (h : e.Writable) (hcost : e.cost ≤ maxDepth) :
    compile e.toStatement = .ok ⟨e.toStatement, e⟩ := by
  rcases h.compile_eq with ⟨-, hcompile⟩ | ⟨hdeep, -⟩
  · exact hcompile
  · exact absurd hcost (Nat.not_le.2 hdeep)

/-- An expression's canonical text is a statement of that expression if it nests no deeper than
statements may, and is refused for its nesting otherwise. -/
theorem compile_toStatement (e : Expr) (h : e.Writable) :
    (e.cost ≤ maxDepth → Statement.compile e.toStatement = .ok ⟨e.toStatement, e⟩) ∧
    (maxDepth < e.cost → ∃ found position, Statement.compile e.toStatement =
      .error ⟨e.toStatement, .parse (.nestingTooDeep found position)⟩) := by
  rcases h.compile_eq with ⟨hcost, hcompile⟩ | ⟨hcost, hcompile⟩
  · exact ⟨fun _ => hcompile, fun hdeep => absurd hcost (Nat.not_le.2 hdeep)⟩
  · exact ⟨fun hle => absurd hle (Nat.not_le.2 hcost), fun _ => hcompile⟩

theorem compile_toStatement_mixed :
    let e := Expr.binary .notMember (.not (.string "/a\""))
      (.list [.float .zero, .integer (-9223372036854775808), .pointer ⟨["a b", ""]⟩])
    e.Writable ∧ e.cost = 2 ∧ Statement.compile e.toStatement = .ok ⟨e.toStatement, e⟩ := by
  intro e
  have hwritable : e.Writable :=
    ⟨trivial, rfl, trivial, List.cons_ne_nil _ _, trivial⟩
  exact ⟨hwritable, rfl, (compile_toStatement e hwritable).1 (by decide)⟩

end EventRouting
