import EventRouting.Proofs.Evaluation.Equations
import EventRouting.Proofs.Evaluation.PlainPatterns
import EventRouting.Proofs.Value.Exactness

set_option autoImplicit false

namespace EventRouting

namespace Value

variable {a b : Value}

theorem equal_of_numeric (ha : a.isNumeric = true) :
    a.equal b = decide (compareNumbers? a b = some .eq) := by
  cases a with
  | integer m => simp [equal]
  | float x => simp [equal]
  | _ => cases ha

theorem order_of_compare {op : Operator} {o : Ordering} (ha : a.isNumeric = true)
    (hb : b.isNumeric = true) (h : compareNumbers? a b = some o) : a.order op b = .ok o := by
  rw [order, ha, hb, h]
  rfl

theorem order_of_nan {op : Operator} (ha : a.isNumeric = true) (hb : b.isNumeric = true)
    (h : a = .float .nan ∨ b = .float .nan) :
    a.order op b = .error (.typeCoercion (.unordered a.numberText b.numberText)) := by
  rw [order, ha, hb, compareNumbers?_nan h]
  rfl

end Value

def Operator.ofOrdering : Ordering → Operator
  | .lt => .less
  | .eq => .equal
  | .gt => .greater

namespace Expr

/-- Every comparison of two expressions has the answer that two exact values give. -/
structure ComparesAs (engine : PatternEngine) (event : Event) (l r : Expr) (x y : EReal) :
    Prop where
  less : (binary .less l r).eval engine event = .ok (.boolean (decide (x < y)))
  lessEqual : (binary .lessEqual l r).eval engine event = .ok (.boolean (decide (x ≤ y)))
  equal : (binary .equal l r).eval engine event = .ok (.boolean (decide (x = y)))
  greaterEqual : (binary .greaterEqual l r).eval engine event = .ok (.boolean (decide (y ≤ x)))
  greater : (binary .greater l r).eval engine event = .ok (.boolean (decide (y < x)))

theorem true_iff {engine : PatternEngine} {event : Event} {e : Expr} {p : Prop} [Decidable p]
    (h : e.eval engine event = .ok (.boolean (decide p))) :
    e.eval engine event = .ok (.boolean true) ↔ p := by
  simp [h]

theorem ComparesAs.true_iff_ofOrdering {engine : PatternEngine} {event : Event} {l r : Expr}
    {x y : EReal}
    (h : ComparesAs engine event l r x y) {op : Operator}
    (hop : op ∈ [Operator.less, .equal, .greater]) :
    (binary op l r).eval engine event = .ok (.boolean true) ↔ op = .ofOrdering (cmp x y) := by
  simp only [List.mem_cons, List.not_mem_nil, or_false] at hop
  rcases hop with rfl | rfl | rfl
  · rw [true_iff h.less, ← cmp_eq_lt_iff]
    cases cmp x y <;> simp [Operator.ofOrdering]
  · rw [true_iff h.equal, ← cmp_eq_eq_iff]
    cases cmp x y <;> simp [Operator.ofOrdering]
  · rw [true_iff h.greater, ← cmp_eq_gt_iff]
    cases cmp x y <;> simp [Operator.ofOrdering]

theorem ComparesAs.existsUnique {engine : PatternEngine} {event : Event} {l r : Expr} {x y : EReal}
    (h : ComparesAs engine event l r x y) :
    ∃! op, op ∈ [Operator.less, .equal, .greater] ∧
      (binary op l r).eval engine event = .ok (.boolean true) := by
  have hmem : Operator.ofOrdering (cmp x y) ∈ [Operator.less, .equal, .greater] := by
    cases cmp x y <;> decide
  exact ⟨_, ⟨hmem, (h.true_iff_ofOrdering hmem).2 rfl⟩,
    fun op hop => (h.true_iff_ofOrdering hop.1).1 hop.2⟩

section

variable {engine : PatternEngine} {event : Event} {l r : Expr} {a b : Value}
variable (hl : l.eval engine event = .ok a) (hr : r.eval engine event = .ok b)
variable (ha : a.isNumeric = true) (hb : b.isNumeric = true)

include hl hr

theorem eval_of_answer {op : Operator} (hand : op ≠ .and) (hor : op ≠ .or) :
    (binary op l r).eval engine event = (op.answer engine a b).map .boolean := by
  rw [eval_binary event hand hor, hl, hr, Fallible.ok_bind, Fallible.ok_bind]
  cases op.answer engine a b <;> rfl

theorem eval_comparison {op : Operator} {judge : Ordering → Bool} (hop : op.judge? = some judge) :
    (binary op l r).eval engine event = (a.order op b).map fun o => .boolean (judge o) := by
  rw [eval_of_answer hl hr (by rintro rfl; cases hop) (by rintro rfl; cases hop),
    Operator.answer_comparison a b hop]
  cases a.order op b <;> rfl

include ha hb

theorem comparesAs (hnanA : a ≠ .float .nan) (hnanB : b ≠ .float .nan) :
    ComparesAs engine event l r a.toEReal b.toEReal := by
  have hcompare := Value.compareNumbers?_eq_cmp ha hb hnanA hnanB
  have hequal : (binary .equal l r).eval engine event = .ok (.boolean (a.equal b)) := by
    rw [eval_of_answer hl hr (by decide) (by decide)]
    rfl
  have hequal_iff : a.compareNumbers? b = some .eq ↔ a.toEReal = b.toEReal := by
    rw [hcompare]
    exact Option.some_inj.trans (cmp_eq_eq_iff _ _)
  rw [Value.equal_of_numeric ha, decide_eq_decide.2 hequal_iff] at hequal
  have hjudge {op : Operator} {judge : Ordering → Bool} {p : Prop} [Decidable p]
      (hop : op.judge? = some judge) (h : judge (cmp a.toEReal b.toEReal) = true ↔ p) :
      (binary op l r).eval engine event = .ok (.boolean (decide p)) := by
    have hanswer : judge (cmp a.toEReal b.toEReal) = decide p := by
      rw [Bool.eq_iff_iff, h, decide_eq_true_iff]
    rw [eval_comparison hl hr hop, Value.order_of_compare ha hb hcompare, ← hanswer]
    rfl
  exact {
    less := hjudge rfl (Ordering.isLT_iff_eq_lt.trans (cmp_eq_lt_iff _ _))
    lessEqual := hjudge rfl
      (Ordering.isLE_iff_ne_gt.trans ((not_congr (cmp_eq_gt_iff _ _)).trans not_lt))
    equal := hequal
    greaterEqual := hjudge rfl
      (Ordering.isGE_iff_ne_lt.trans ((not_congr (cmp_eq_lt_iff _ _)).trans not_lt))
    greater := hjudge rfl (Ordering.isGT_iff_eq_gt.trans (cmp_eq_gt_iff _ _)) }

theorem eval_nan (h : a = .float .nan ∨ b = .float .nan) :
    (binary .equal l r).eval engine event = .ok (.boolean false) ∧
    ∀ op ∈ [Operator.less, .lessEqual, .greater, .greaterEqual],
      (binary op l r).eval engine event =
        .error (.typeCoercion (.unordered a.numberText b.numberText)) := by
  constructor
  · rw [eval_of_answer hl hr (by decide) (by decide), Operator.answer_equal,
      Value.equal_of_numeric ha, Value.compareNumbers?_nan h]
    rfl
  · intro op hop
    have hjudge : op.judge?.isSome = true := by
      revert hop op
      decide
    have ⟨judge, hjudge⟩ := Option.isSome_iff_exists.1 hjudge
    rw [eval_comparison hl hr hjudge, Value.order_of_nan ha hb h]
    rfl

theorem lt_of_less (h : (binary .less l r).eval engine event = .ok (.boolean true)) :
    a ≠ .float .nan ∧ b ≠ .float .nan ∧ a.toEReal < b.toEReal := by
  by_cases hnan : a = .float .nan ∨ b = .float .nan
  · rw [(eval_nan hl hr ha hb hnan).2 .less (by simp)] at h
    cases h
  · rw [not_or] at hnan
    exact ⟨hnan.1, hnan.2, (true_iff (comparesAs hl hr ha hb hnan.1 hnan.2).less).1 h⟩

end

/-- Numbers compare as their exact values do, so exactly one of `<`, `==` and `>` is true of two
numbers other than NaN, `<=` and `>=` join the others with `==`, and `<` runs through chains. NaN
is equal to nothing, and ordering it is an error. -/
theorem comparison_exact {engine : PatternEngine} {event : Event} {l r : Expr} {a b : Value}
    (hl : l.eval engine event = .ok a) (hr : r.eval engine event = .ok b)
    (ha : a.isNumeric = true) (hb : b.isNumeric = true) :
    (a ≠ .float .nan → b ≠ .float .nan →
      Value.compareNumbers? a b = some (cmp a.toEReal b.toEReal) ∧
      ComparesAs engine event l r a.toEReal b.toEReal ∧
      (∃! op, op ∈ [Operator.less, .equal, .greater] ∧
        (binary op l r).eval engine event = .ok (.boolean true)) ∧
      ((binary .lessEqual l r).eval engine event = .ok (.boolean true) ↔
        (binary .less l r).eval engine event = .ok (.boolean true) ∨
          (binary .equal l r).eval engine event = .ok (.boolean true)) ∧
      ((binary .greaterEqual l r).eval engine event = .ok (.boolean true) ↔
        (binary .greater l r).eval engine event = .ok (.boolean true) ∨
          (binary .equal l r).eval engine event = .ok (.boolean true)) ∧
      (binary .less l r).eval engine event = (binary .greater r l).eval engine event) ∧
    (∀ m c, m.eval engine event = .ok c → c.isNumeric = true →
      (binary .less l m).eval engine event = .ok (.boolean true) →
      (binary .less m r).eval engine event = .ok (.boolean true) →
      (binary .less l r).eval engine event = .ok (.boolean true)) ∧
    (a = .float .nan ∨ b = .float .nan →
      (binary .equal l r).eval engine event = .ok (.boolean false) ∧
      ∀ op ∈ [Operator.less, .lessEqual, .greater, .greaterEqual],
        (binary op l r).eval engine event =
          .error (.typeCoercion (.unordered a.numberText b.numberText))) := by
  refine ⟨fun hnanA hnanB => ?_, fun m c hm hc hlm hmr => ?_, eval_nan hl hr ha hb⟩
  · have h := comparesAs hl hr ha hb hnanA hnanB
    refine ⟨Value.compareNumbers?_eq_cmp ha hb hnanA hnanB, h, h.existsUnique, ?_, ?_, ?_⟩
    · rw [true_iff h.lessEqual, true_iff h.less, true_iff h.equal]
      exact le_iff_lt_or_eq
    · rw [true_iff h.greaterEqual, true_iff h.greater, true_iff h.equal, eq_comm]
      exact le_iff_lt_or_eq
    · exact h.less.trans (comparesAs hr hl hb ha hnanB hnanA).greater.symm
  · have ⟨hnanA, _, hac⟩ := lt_of_less hl hm ha hc hlm
    have ⟨_, hnanB, hcb⟩ := lt_of_less hm hr hc hb hmr
    exact (true_iff (comparesAs hl hr ha hb hnanA hnanB).less).2 (hac.trans hcb)

theorem comparison_exact_neighbours :
    let event : Event := ⟨[("n", .integer 9007199254740993)]⟩
    let a : Value := .float (.finite false ⟨2 ^ 52, 1075, by decide⟩)
    let b : Value := .float (.finite false ⟨2 ^ 52 + 1, 1075, by decide⟩)
    let l := float (.finite false ⟨2 ^ 52, 1075, by decide⟩)
    let m := pointer ⟨["n"]⟩
    let r := float (.finite false ⟨2 ^ 52 + 1, 1075, by decide⟩)
    (l.eval .plain event = .ok a ∧ r.eval .plain event = .ok b ∧
      m.eval .plain event = .ok (.integer 9007199254740993)) ∧
    ((binary .less l m).eval .plain event = .ok (.boolean true) ∧
      (binary .less m r).eval .plain event = .ok (.boolean true) ∧
      (binary .less l r).eval .plain event = .ok (.boolean true)) ∧
    (a ≠ .float .nan ∧ b ≠ .float .nan ∧ ComparesAs .plain event l r a.toEReal b.toEReal) ∧
    (binary .equal m (float .nan)).eval .plain event = .ok (.boolean false) := by
  intro event a b l m r
  have hm : m.eval .plain event = .ok (.integer 9007199254740993) := rfl
  have hl : l.eval .plain event = .ok a := rfl
  have hr : r.eval .plain event = .ok b := rfl
  have hlm : (binary .less l m).eval .plain event = .ok (.boolean true) := by
    have hcompare : a.compareNumbers? (.integer 9007199254740993) = some .lt := by decide +kernel
    rw [eval_comparison hl hm rfl, Value.order_of_compare rfl rfl hcompare]
    rfl
  have hmr : (binary .less m r).eval .plain event = .ok (.boolean true) := by
    have hcompare : Value.compareNumbers? (.integer 9007199254740993) b = some .lt := by
      decide +kernel
    rw [eval_comparison hm hr rfl, Value.order_of_compare rfl rfl hcompare]
    rfl
  have h := comparison_exact hl hr rfl rfl
  have hnan := comparison_exact hm (eval_float event .nan) rfl rfl
  have ha : a ≠ .float .nan := by simp [a]
  have hb : b ≠ .float .nan := by simp [b]
  exact ⟨⟨hl, hr, hm⟩, ⟨hlm, hmr, h.2.1 m _ hm rfl hlm hmr⟩, ⟨ha, hb, (h.1 ha hb).2.1⟩,
    (hnan.2.2 (.inr rfl)).1⟩

end Expr
end EventRouting
