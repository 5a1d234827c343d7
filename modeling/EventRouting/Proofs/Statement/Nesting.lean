import EventRouting.Proofs.Statement.Compiling

set_option autoImplicit false

/-!
# How deep compiled expressions nest

The nesting level of a chain is given back at its end, while the tree goes on growing on its
left side. So `maxDepth` bounds a path only if what is passed through to a left operand is not
counted: `Expr.nesting`. The most lists, negations and operations on a path, `Expr.height`, are
bounded by what five chains to a level can stack, and that many are reached.
-/
namespace EventRouting

namespace Expr

mutual

/-- The most lists, negations and binary operations on a path from the root to a leaf. -/
def height : Expr → Nat
  | .list items => 1 + maxHeight items
  | .not operand => 1 + height operand
  | .binary _ left right => 1 + max (height left) (height right)
  | _ => 0

def maxHeight : List Expr → Nat
  | [] => 0
  | item :: rest => max (height item) (maxHeight rest)

end

mutual

/-- As `height`, but an operation counts only on the paths to its right operand. -/
def nesting : Expr → Nat
  | .list items => 1 + maxNesting items
  | .not operand => 1 + nesting operand
  | .binary _ left right => max (nesting left) (1 + nesting right)
  | _ => 0

def maxNesting : List Expr → Nat
  | [] => 0
  | item :: rest => max (nesting item) (maxNesting rest)

end

end Expr

theorem Token.leaf_height {t : Token} {e : Expr} (h : t.leaf? = some e) : e.height = 0 := by
  cases t <;> cases h <;> rfl

theorem Token.leaf_nesting {t : Token} {e : Expr} (h : t.leaf? = some e) : e.nesting = 0 := by
  cases t <;> cases h <;> rfl

mutual

theorem Derives.nesting_le {level : Level} {d p : Nat} {ts : List Token} {e : Expr} :
    Derives level d ts e p → d + e.nesting ≤ p
  | .chain first more => more.nesting_le first.nesting_le (Nat.le_refl d)
  | .negation operand => by
    have hoperand := operand.nesting_le
    rw [Expr.nesting]
    omega
  | .plain inner => inner.nesting_le
  | .leaf ht => by
    rw [Token.leaf_nesting ht]
    exact Nat.le_refl _
  | .emptyList => Nat.le_refl _
  | .list items => by
    have hitems := items.nesting_le
    rw [Expr.nesting]
    omega
  | .parens inner => by
    have hinner := inner.nesting_le
    omega

theorem Continues.nesting_le {c : Chain} {d base p q : Nat} {ts : List Token} {left e : Expr} :
    Continues c d left ts e q → base + left.nesting ≤ p → base ≤ d →
    base + e.nesting ≤ max p q
  | .stop, hleft, _ => Nat.le_trans hleft (Nat.le_max_left _ _)
  | @Continues.more _ _ r _ _ _ _ op _ operand _ _ right more, hleft, hbase => by
    have hright := right.nesting_le
    have hgrown : base + (Expr.binary op left operand).nesting ≤ max p r := by
      rw [Expr.nesting]
      omega
    have hmore := more.nesting_le hgrown (Nat.le_succ_of_le hbase)
    omega

theorem DerivesItems.nesting_le {d p : Nat} {ts : List Token} {es : List Expr} :
    DerivesItems d ts es p → d + Expr.maxNesting es ≤ p
  | .one item => by
    have hitem := item.nesting_le
    rw [Expr.maxNesting, Expr.maxNesting]
    omega
  | .more item items => by
    have hitem := item.nesting_le
    have hitems := items.nesting_le
    rw [Expr.maxNesting]
    omega

end

/-- The most nodes on a path of a primary expression with `m` levels left: within a list, one
node for each operator of each chain, and the list. -/
def roof : Nat → Nat
  | 0 => 0
  | m + 1 => roof m + 5 * m + 1

def Level.chains : Level → Nat
  | .primary => 0
  | .chain .membership => 1
  | .chain .relation => 2
  | .chain .equality => 3
  | .negation => 3
  | .chain .conjunction => 4
  | .chain .disjunction => 5

/-- The most nodes on a path of a phrase with `m` levels left. -/
def Level.reach (level : Level) (m : Nat) : Nat := roof m + level.chains * m

namespace Level

theorem reach_chain (c : Chain) (m : Nat) :
    (chain c).reach m = c.operand.reach m + m := by
  cases c <;> simp only [reach, chains, Chain.operand] <;> omega

theorem reach_mono (level : Level) {m n : Nat} (h : m ≤ n) : level.reach m ≤ level.reach n := by
  induction h with
  | refl => exact Nat.le_refl _
  | step _ ih =>
    refine Nat.le_trans ih ?_
    simp only [reach, roof, Nat.mul_succ]
    omega

theorem reach_primary_succ (m : Nat) :
    primary.reach (m + 1) = (chain .disjunction).reach m + 1 := by
  simp only [reach, chains, roof]
  omega

theorem reach_negation_succ (m : Nat) : negation.reach m + 1 ≤ negation.reach (m + 1) := by
  simp only [reach, chains, roof]
  omega

end Level

mutual

theorem Derives.height_le {level : Level} {d p m : Nat} {ts : List Token} {e : Expr} :
    Derives level d ts e p → p ≤ d + m → e.height ≤ level.reach m
  | @Derives.chain c _ _ _ _ _ _ _ first more, hp => by
    have hfirst := first.height_le (m := m) (by omega)
    rw [Level.reach_chain]
    exact more.height_le (by omega) hfirst (Nat.le_refl _)
  | .negation operand, hp => by
    have hpeak := operand.le_peak
    obtain ⟨k, rfl⟩ : ∃ k, m = k + 1 := ⟨m - 1, by omega⟩
    have hoperand := operand.height_le (m := k) (by omega)
    have hreach := Level.reach_negation_succ k
    rw [Expr.height]
    omega
  | .plain inner, hp => inner.height_le hp
  | .leaf ht, _ => by
    rw [Token.leaf_height ht]
    exact Nat.zero_le _
  | .emptyList, hp => by
    obtain ⟨k, rfl⟩ : ∃ k, m = k + 1 := ⟨m - 1, by omega⟩
    rw [Level.reach_primary_succ, Expr.height, Expr.maxHeight]
    omega
  | .list items, hp => by
    have hpeak := items.le_peak
    obtain ⟨k, rfl⟩ : ∃ k, m = k + 1 := ⟨m - 1, by omega⟩
    have hitems := items.height_le (m := k) (by omega)
    rw [Level.reach_primary_succ, Expr.height]
    omega
  | .parens inner, hp => by
    have hpeak := inner.le_peak
    obtain ⟨k, rfl⟩ : ∃ k, m = k + 1 := ⟨m - 1, by omega⟩
    have hinner := inner.height_le (m := k) (by omega)
    rw [Level.reach_primary_succ]
    omega

theorem Continues.height_le {c : Chain} {d p m bound : Nat} {ts : List Token}
    {left e : Expr} :
    Continues c d left ts e p → p ≤ d + m → left.height ≤ bound → c.operand.reach m ≤ bound →
    e.height ≤ bound + m
  | .stop, _, hleft, _ => Nat.le_trans hleft (Nat.le_add_right _ _)
  | @Continues.more _ _ _ _ _ _ _ op _ operand _ _ right more, hp, hleft, hbound => by
    have hpeak := right.le_peak
    obtain ⟨k, rfl⟩ : ∃ k, m = k + 1 := ⟨m - 1, by omega⟩
    have hright := right.height_le (m := k) (by omega)
    have hmono := c.operand.reach_mono (Nat.le_add_right k 1)
    have hgrown : (Expr.binary op left operand).height ≤ bound + 1 := by
      rw [Expr.height]
      omega
    have hmore := more.height_le (m := k) (by omega) hgrown (by omega)
    omega

theorem DerivesItems.height_le {d p m : Nat} {ts : List Token} {es : List Expr} :
    DerivesItems d ts es p → p ≤ d + m →
    Expr.maxHeight es ≤ (Level.chain .disjunction).reach m
  | .one item, hp => by
    have hitem := item.height_le hp
    rw [Expr.maxHeight, Expr.maxHeight]
    omega
  | .more item items, hp => by
    have hitem := item.height_le (m := m) (by omega)
    have hitems := items.height_le (m := m) (by omega)
    rw [Expr.maxHeight]
    omega

end

/-- With `m` levels left, some phrase of the level that can be written has a longest path of `n`
nodes. -/
def Level.Attains (level : Level) (m n : Nat) : Prop :=
  ∃ ts e, e.height = n ∧ (∀ t ∈ ts, t.Writable) ∧ ∀ d, ∃ p ≤ d + m, Derives level d ts e p

def Chain.operator : Chain → Token × Operator
  | .disjunction => (.or, .or)
  | .conjunction => (.and, .and)
  | .equality => (.equal, .equal)
  | .relation => (.less, .less)
  | .membership => (.member, .member)

namespace Chain

theorem operator_joint (c : Chain) : c.Joint [c.operator.1] c.operator.2 := by
  cases c <;> constructor

theorem operator_writable (c : Chain) : c.operator.1.Writable := by
  cases c <;> trivial

theorem derives_null (level : Level) (d : Nat) : Derives level d [.null] .null d := by
  have hleaf : Derives .primary d [.null] .null d := .leaf rfl
  exact hleaf.loosen (Nat.zero_le _)

theorem continues_nulls (c : Chain) (k : Nat) (left : Expr) :
    ∃ ts e, e.height = left.height + k ∧ (∀ t ∈ ts, t.Writable) ∧
      ∀ d, Continues c d left ts e (d + k) := by
  induction k generalizing left with
  | zero => exact ⟨[], left, rfl, by simp, fun d => .stop⟩
  | succ k ih =>
    obtain ⟨ts, e, hheight, hwritable, hcontinues⟩ := ih (.binary c.operator.2 left .null)
    refine ⟨[c.operator.1] ++ ([.null] ++ ts), e, ?_, ?_, fun d => ?_⟩
    · have hnull : Expr.null.height = 0 := rfl
      rw [hheight, Expr.height]
      omega
    · intro t ht
      simp only [List.mem_append, List.mem_singleton] at ht
      rcases ht with rfl | rfl | ht
      · exact c.operator_writable
      · trivial
      · exact hwritable t ht
    · have hmore := Continues.more c.operator_joint (derives_null c.operand (d + 1))
        (hcontinues (d + 1))
      have hpeak : max (d + 1) (d + 1 + k) = d + (k + 1) := by omega
      rwa [hpeak] at hmore

end Chain

namespace Level.Attains

theorem chain {c : Chain} {m n k : Nat} (h : c.operand.Attains m n) (hk : k ≤ m) :
    (Level.chain c).Attains m (n + k) := by
  obtain ⟨ts, e, rfl, hwritable, hderives⟩ := h
  obtain ⟨us, e', hheight, hwritable', hcontinues⟩ := c.continues_nulls k e
  refine ⟨ts ++ us, e', hheight, ?_, fun d => ?_⟩
  · exact fun t ht => (List.mem_append.1 ht).elim (hwritable t) (hwritable' t)
  · obtain ⟨p, hp, hfirst⟩ := hderives d
    exact ⟨max p (d + k), by omega, .chain hfirst (hcontinues d)⟩

theorem list {m n : Nat} (h : (Level.chain .disjunction).Attains m n) :
    Level.primary.Attains (m + 1) (n + 1) := by
  obtain ⟨ts, e, rfl, hwritable, hderives⟩ := h
  refine ⟨.leftBracket :: (ts ++ [.rightBracket]), .list [e], ?_, ?_, fun d => ?_⟩
  · rw [Expr.height, Expr.maxHeight, Expr.maxHeight]
    omega
  · intro t ht
    simp only [List.mem_cons, List.mem_append, List.not_mem_nil, or_false] at ht
    rcases ht with rfl | ht | rfl
    · trivial
    · exact hwritable t ht
    · trivial
  · obtain ⟨p, hp, hitem⟩ := hderives (d + 1)
    exact ⟨p, by omega, .list (.one hitem)⟩

theorem null (level : Level) (m : Nat) : level.Attains m 0 :=
  ⟨[.null], .null, rfl, by simp [Token.Writable],
    fun d => ⟨d, Nat.le_add_right d m, Chain.derives_null level d⟩⟩

end Level.Attains

theorem Level.attains (level : Level) (m n : Nat) (h : n ≤ level.reach m) :
    level.Attains m n := by
  match level, m, n with
  | .chain c, m, n =>
    -- the first operand takes what it can, the operators of the chain the rest
    rw [reach_chain] at h
    have hoperand := Level.attains c.operand m (min n (c.operand.reach m)) (Nat.min_le_right _ _)
    have hchain := hoperand.chain (k := n - c.operand.reach m) (by omega)
    rwa [show min n (c.operand.reach m) + (n - c.operand.reach m) = n by omega] at hchain
  | .negation, m, n =>
    obtain ⟨ts, e, hheight, hwritable, hderives⟩ := Level.attains (.chain .equality) m n h
    refine ⟨ts, e, hheight, hwritable, fun d => ?_⟩
    obtain ⟨p, hp, hinner⟩ := hderives d
    exact ⟨p, hp, .plain hinner⟩
  | .primary, m, 0 => exact .null _ m
  | .primary, 0, n + 1 => exact absurd h (Nat.not_succ_le_zero n)
  | .primary, m + 1, n + 1 =>
    rw [reach_primary_succ] at h
    exact (Level.attains (.chain .disjunction) m n (Nat.le_of_succ_le_succ h)).list
termination_by (m, level.rank)
decreasing_by
  · exact Prod.Lex.right _ c.rank_operand_lt
  · exact Prod.Lex.right _ (by decide)
  · exact Prod.Lex.left _ _ (Nat.lt_succ_self m)

theorem reach_maxDepth : (Level.chain .disjunction).reach maxDepth = 41408 := by
  decide +kernel

/-- On the paths of a compiled expression at most `maxDepth` nodes count if an operation does not
count on the way to its left operand. -/
theorem compiled_nesting_le {text : String} {s : Statement} (h : Statement.compile text = .ok s) :
    s.expr.nesting ≤ maxDepth := by
  obtain ⟨placed, peak, -, hpeak, hderives⟩ := Statement.derives_of_compile h
  have hnesting := Derives.nesting_le hderives
  omega

/-- If it does count, a longest path has up to 41408 nodes, and each number up to that is the
length of some compiled expression's longest path. -/
theorem compiled_height_iff (n : Nat) :
    (∃ text s, Statement.compile text = .ok s ∧ s.expr.height = n) ↔ n ≤ 41408 := by
  constructor
  · rintro ⟨text, s, h, rfl⟩
    obtain ⟨placed, peak, -, hpeak, hderives⟩ := Statement.derives_of_compile h
    rw [← reach_maxDepth]
    exact Derives.height_le hderives (by omega)
  · intro hn
    rw [← reach_maxDepth] at hn
    obtain ⟨ts, e, hheight, hwritable, hderives⟩ := Level.attains _ maxDepth n hn
    obtain ⟨peak, hpeak, h⟩ := hderives 0
    rw [Nat.zero_add] at hpeak
    exact ⟨_, _, (Reads.spaced_reads hwritable).compile_ok h hpeak, hheight⟩

end EventRouting
