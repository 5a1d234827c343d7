import EventRouting.Proofs.Statement.Nesting
import EventRouting.Proofs.Statement.RoundTrip

set_option autoImplicit false

/-!
# Where folded operands end up

A chain of operators is folded to the left, so its first operand ends up under all of them, and
a further one under its own operator and those behind it. `Folds level d ts peak` derives a
phrase with each operand counted at the depth where folding puts it, and parentheses not counted.
Parsing counts the other way round, from the first operand on. The main statement is that the
tree of a compiled text keeps to `maxDepth` exactly if its tokens do by this count.
-/
namespace EventRouting

mutual

inductive Folds : Level → Nat → List Token → Nat → Prop
  | chain {c : Chain} {d k p q : Nat} {ts us : List Token} :
      Folds c.operand (d + k) ts p → FoldsBehind c d k us q →
      Folds (.chain c) d (ts ++ us) (max p q)
  | negation {d p : Nat} {ts : List Token} :
      Folds .negation (d + 1) ts p → Folds .negation d (.not :: ts) p
  | plain {d p : Nat} {ts : List Token} :
      Folds (.chain .equality) d ts p → Folds .negation d ts p
  | leaf {d : Nat} {t : Token} {e : Expr} : t.leaf? = some e → Folds .primary d [t] d
  | emptyList {d : Nat} : Folds .primary d [.leftBracket, .rightBracket] (d + 1)
  | list {d p : Nat} {ts : List Token} :
      FoldsItems (d + 1) ts p → Folds .primary d (.leftBracket :: (ts ++ [.rightBracket])) p
  | parens {d p : Nat} {ts : List Token} :
      Folds (.chain .disjunction) d ts p →
      Folds .primary d (.leftParen :: (ts ++ [.rightParen])) p

/-- The last `k` operators of a chain at depth `d`, each with the operand behind it. -/
inductive FoldsBehind : Chain → Nat → Nat → List Token → Nat → Prop
  | stop {c : Chain} {d : Nat} : FoldsBehind c d 0 [] d
  | more {c : Chain} {d k p q : Nat} {symbol ts us : List Token} {op : Operator} :
      c.Joint symbol op → Folds c.operand (d + (k + 1)) ts p → FoldsBehind c d k us q →
      FoldsBehind c d (k + 1) (symbol ++ (ts ++ us)) (max p q)

inductive FoldsItems : Nat → List Token → Nat → Prop
  | one {d p : Nat} {ts : List Token} :
      Folds (.chain .disjunction) d ts p → FoldsItems d ts p
  | more {d p q : Nat} {ts us : List Token} :
      Folds (.chain .disjunction) d ts p → FoldsItems d us q →
      FoldsItems d (ts ++ .comma :: us) (max p q)

end

mutual

/-- What derives an expression folds, from any depth on, as deep as the expression is high. -/
theorem Derives.folds {level : Level} {base p : Nat} {ts : List Token} {e : Expr} :
    Derives level base ts e p → ∀ d, Folds level d ts (d + e.height)
  | .chain first more, d => by
    obtain ⟨k, q, hmore, hpeak⟩ := more.folds d
    rw [← hpeak]
    exact .chain (first.folds (d + k)) hmore
  | .negation operand, d => by
    rw [Expr.height, ← Nat.add_assoc]
    exact .negation (operand.folds (d + 1))
  | .plain inner, d => .plain (inner.folds d)
  | .leaf ht, d => by
    rw [Token.leaf_height ht]
    exact .leaf ht
  | .emptyList, _ => .emptyList
  | .list items, d => by
    rw [Expr.height, ← Nat.add_assoc]
    exact .list (items.folds (d + 1))
  | .parens inner, d => .parens (inner.folds d)

/-- With `k` operators to come, the tree so far ends up `k` deeper. -/
theorem Continues.folds {c : Chain} {base p : Nat} {left e : Expr} {ts : List Token} :
    Continues c base left ts e p → ∀ d, ∃ k q,
      FoldsBehind c d k ts q ∧ max (d + k + left.height) q = d + e.height
  | .stop, d => ⟨0, d, .stop, by omega⟩
  | .more joint right more, d => by
    obtain ⟨k, q, hmore, hpeak⟩ := more.folds d
    refine ⟨k + 1, _, .more joint (right.folds (d + (k + 1))) hmore, ?_⟩
    rw [Expr.height] at hpeak
    omega

theorem DerivesItems.folds {base p : Nat} {ts : List Token} {es : List Expr} :
    DerivesItems base ts es p → ∀ d, FoldsItems d ts (d + Expr.maxHeight es)
  | .one item, d => by
    rw [Expr.maxHeight, Expr.maxHeight, Nat.max_zero]
    exact .one (item.folds d)
  | .more item items, d => by
    rw [Expr.maxHeight, ← Nat.add_max_add_left]
    exact .more (item.folds d) (items.folds d)

end

mutual

theorem Folds.derives {level : Level} {d p : Nat} {ts : List Token} :
    Folds level d ts p → ∀ base, ∃ e q, Derives level base ts e q ∧ d + e.height = p
  | .chain first more, base => by
    obtain ⟨left, q, hfirst, hleft⟩ := first.derives base
    obtain ⟨e, r, hmore, hpeak⟩ := more.derives base left
    exact ⟨e, _, .chain hfirst hmore, by rw [← hpeak, hleft]⟩
  | .negation operand, base => by
    obtain ⟨e, q, hoperand, hheight⟩ := operand.derives (base + 1)
    refine ⟨.not e, q, .negation hoperand, ?_⟩
    rw [Expr.height, ← Nat.add_assoc, hheight]
  | .plain inner, base => by
    obtain ⟨e, q, hinner, hheight⟩ := inner.derives base
    exact ⟨e, q, .plain hinner, hheight⟩
  | .leaf ht, base => ⟨_, base, .leaf ht, by rw [Token.leaf_height ht, Nat.add_zero]⟩
  | .emptyList, _ => ⟨_, _, .emptyList, rfl⟩
  | .list items, base => by
    obtain ⟨es, q, hitems, hheight⟩ := items.derives (base + 1)
    refine ⟨.list es, q, .list hitems, ?_⟩
    rw [Expr.height, ← Nat.add_assoc, hheight]
  | .parens inner, base => by
    obtain ⟨e, q, hinner, hheight⟩ := inner.derives (base + 1)
    exact ⟨e, q, .parens hinner, hheight⟩

theorem FoldsBehind.derives {c : Chain} {d k p : Nat} {ts : List Token} :
    FoldsBehind c d k ts p → ∀ base left, ∃ e q,
      Continues c base left ts e q ∧ max (d + k + left.height) p = d + e.height
  | .stop, base, left => ⟨left, base, .stop, by omega⟩
  | @FoldsBehind.more _ _ _ _ _ _ _ _ op joint right more, base, left => by
    obtain ⟨operand, q, hright, hoperand⟩ := right.derives (base + 1)
    obtain ⟨e, r, hmore, hpeak⟩ := more.derives (base + 1) (.binary op left operand)
    refine ⟨e, _, .more joint hright hmore, ?_⟩
    rw [Expr.height] at hpeak
    omega

theorem FoldsItems.derives {d p : Nat} {ts : List Token} :
    FoldsItems d ts p → ∀ base, ∃ es q,
      DerivesItems base ts es q ∧ d + Expr.maxHeight es = p
  | .one item, base => by
    obtain ⟨e, q, hitem, hheight⟩ := item.derives base
    refine ⟨[e], q, .one hitem, ?_⟩
    rw [Expr.maxHeight, Expr.maxHeight, Nat.max_zero, hheight]
  | .more item items, base => by
    obtain ⟨e, q, hitem, hheight⟩ := item.derives base
    obtain ⟨es, r, hitems, hmax⟩ := items.derives base
    refine ⟨e :: es, _, .more hitem hitems, ?_⟩
    rw [Expr.maxHeight, ← Nat.add_max_add_left, hheight, hmax]

end

theorem Derives.height_le_iff {level : Level} {base p n : Nat} {ts : List Token} {e : Expr}
    (h : Derives level base ts e p) :
    e.height ≤ n ↔ ∃ peak ≤ n, Folds level 0 ts peak := by
  constructor
  · intro hheight
    have hfolds := h.folds 0
    rw [Nat.zero_add] at hfolds
    exact ⟨e.height, hheight, hfolds⟩
  · rintro ⟨peak, hpeak, hfolds⟩
    obtain ⟨e', q, hderives, hheight⟩ := hfolds.derives base
    obtain ⟨rfl, -⟩ := h.tree_unique hderives
    omega

/-- The paths of a compiled expression keep to `maxDepth` exactly if the tokens of the text do,
each operand counted at the depth where the fold of its chain puts it. -/
theorem compile_height_le_iff (text : String) (s : Statement)
    (h : Statement.compile text = .ok s) :
    s.expr.height ≤ maxDepth ↔ ∃ placed, tokenize text = .ok placed ∧
      ∃ peak ≤ maxDepth, Folds (.chain .disjunction) 0 (statementTokens placed) peak := by
  obtain ⟨placed, _, htokenize, -, hderives⟩ := Statement.derives_of_compile h
  rw [Derives.height_le_iff hderives]
  constructor
  · intro hfolds
    exact ⟨placed, htokenize, hfolds⟩
  · rintro ⟨placed', htokenize', hfolds⟩
    obtain rfl : placed = placed' := Except.ok.inj (htokenize.symm.trans htokenize')
    exact hfolds

theorem compile_height_le_iff_comparison :
    let e := Expr.binary .less (.binary .member (.integer 1) (.list [.null])) (.integer 2)
    e.height = 3 ∧ Statement.compile e.toStatement = .ok ⟨e.toStatement, e⟩ ∧
      ∃ placed, tokenize e.toStatement = .ok placed ∧
        ∃ peak ≤ maxDepth, Folds (.chain .disjunction) 0 (statementTokens placed) peak := by
  intro e
  have hcompile : Statement.compile e.toStatement = .ok ⟨e.toStatement, e⟩ :=
    Statement.compile_canonical ⟨⟨trivial, trivial, trivial⟩, trivial⟩ (by decide)
  have hheight : e.height ≤ maxDepth := by decide
  exact ⟨rfl, hcompile, (compile_height_le_iff _ _ hcompile).1 hheight⟩

namespace Expr

def brackets : Nat → Expr
  | 0 => .list []
  | n + 1 => .list [brackets n]

theorem brackets_height (n : Nat) : (brackets n).height = n + 1 := by
  induction n with
  | zero => rfl
  | succ n ih =>
    rw [brackets, height, maxHeight, maxHeight, ih]
    omega

theorem brackets_cost (n : Nat) : (brackets n).cost = n + 1 := by
  induction n with
  | zero => rfl
  | succ n ih =>
    rw [brackets, cost, maxCost, maxCost, ih]
    omega

theorem brackets_writable (n : Nat) : (brackets n).Writable := by
  induction n with
  | zero => trivial
  | succ n ih => exact ⟨ih, trivial⟩

theorem brackets_chars (n : Nat) (nested : Bool) : (brackets n).canonicalChars nested =
    List.replicate (n + 1) '[' ++ List.replicate (n + 1) ']' := by
  induction n generalizing nested with
  | zero => rfl
  | succ n ih =>
    rw [brackets, canonicalChars, canonicalItems, ih, List.append_assoc, ← List.replicate_succ']
    rfl

end Expr

theorem Statement.compile_brackets {n : Nat} (h : n < maxDepth) :
    ∃ s, compile (String.ofList (List.replicate (n + 1) '[' ++ List.replicate (n + 1) ']' ++
        [' ', '<', ' ', '1'])) = .ok s ∧ s.expr.height = n + 2 := by
  let e := Expr.binary .less (.brackets n) (.integer 1)
  have hchars : e.canonicalChars false = List.replicate (n + 1) '[' ++
      List.replicate (n + 1) ']' ++ [' ', '<', ' ', '1'] := by
    have hnumber : (Text.ofInt (Int64.toInt 1)).toList = ['1'] := by decide
    show (Expr.binary .less (.brackets n) (.integer 1)).canonicalChars false = _
    rw [Expr.canonicalChars, Expr.canonicalChars, Expr.brackets_chars, hnumber]
    simp [Expr.inParens, Operator.symbol]
  have hcost : e.cost ≤ maxDepth := by
    have hlists : (Expr.brackets n).operandCost = n + 1 := by
      rw [Expr.operandCost, Expr.brackets_cost]
      cases n <;> rfl
    show max (Expr.brackets n).operandCost 1 ≤ maxDepth
    omega
  have hheight : e.height = n + 2 := by
    show 1 + max (Expr.brackets n).height 0 = n + 2
    rw [Expr.brackets_height]
    omega
  have hcompile := compile_canonical (e := e) ⟨Expr.brackets_writable n, trivial⟩ hcost
  rw [Expr.toStatement, hchars] at hcompile
  exact ⟨_, hcompile, hheight⟩

theorem compile_brackets_less :
    ∃ s, Statement.compile (String.ofList
        (List.replicate 128 '[' ++ List.replicate 128 ']' ++ [' ', '<', ' ', '1'])) = .ok s ∧
      maxDepth < s.expr.height := by
  obtain ⟨s, hcompile, hheight⟩ := Statement.compile_brackets (n := 127) (by decide)
  exact ⟨s, hcompile, by rw [hheight]; decide⟩

end EventRouting
