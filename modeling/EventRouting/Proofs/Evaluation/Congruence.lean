import EventRouting.Proofs.Evaluation.Equations
import EventRouting.Proofs.Evaluation.Memory
import EventRouting.Proofs.Evaluation.Outcome
import EventRouting.Proofs.Evaluation.PlainPatterns
import EventRouting.Proofs.Value.Equality

set_option autoImplicit false

namespace EventRouting

open Value (Alike AlikeItems AlikeFields)

namespace Value

theorem rel_bind {α β : Type} {R : α → α → Prop} {S : β → β → Prop} {x y : Option α}
    {f g : α → Option β} (h : Option.Rel R x y) (hf : ∀ a b, R a b → Option.Rel S (f a) (g b)) :
    Option.Rel S (x.bind f) (y.bind g) := by
  cases h with
  | some hab => exact hf _ _ hab
  | none => exact .none

theorem Alike.getD_null {x y : Option Value} (h : Option.Rel Alike x y) :
    Alike (x.getD .null) (y.getD .null) := by
  cases h with
  | some hab => exact hab
  | none => exact .null

theorem AlikeItems.getElem? {xs ys : List Value} :
    AlikeItems xs ys → ∀ i : Nat, Option.Rel Alike xs[i]? ys[i]?
  | .nil, _ => .none
  | .cons first _, 0 => .some first
  | .cons _ rest, i + 1 => rest.getElem? i

theorem AlikeItems.any_equal {x y : Value} (h : Alike x y) {xs ys : List Value}
    (items : AlikeItems xs ys) : xs.any x.equal = ys.any y.equal := by
  induction xs generalizing ys with
  | nil =>
    cases items
    rfl
  | cons a xs ih =>
    cases items with
    | cons first rest => rw [List.any_cons, List.any_cons, h.equal_congr first, ih rest]

namespace Alike

variable {a b : Value} (h : Alike a b)

include h

theorem child? (segment : String) :
    Option.Rel Alike (Event.child? a segment) (Event.child? b segment) := by
  cases h with
  | list items =>
    unfold Event.child?
    cases Event.index? segment with
    | none => exact .none
    | some i => exact items.getElem? i
  | object fields => exact fields.get? segment
  | number ha hb =>
    obtain ⟨m, rfl⟩ | ⟨x, rfl⟩ := numeric_cases ha <;>
      obtain ⟨n, rfl⟩ | ⟨y, rfl⟩ := numeric_cases hb <;> exact .none
  | _ => exact .none

theorem walk (segments : List String) :
    Option.Rel Alike (Event.walk a segments) (Event.walk b segments) := by
  induction segments generalizing a b with
  | nil => exact .some h
  | cons segment rest ih =>
    rw [Event.walk, Event.walk, List.foldlM_cons, List.foldlM_cons]
    exact rel_bind (h.child? segment) fun _ _ hchild => ih hchild

end Alike

theorem AlikeFields.lookup {v w : Event} (h : AlikeFields v.fields w.fields) (p : Pointer) :
    Alike ((v.get? p).getD .null) ((w.get? p).getD .null) := by
  refine .getD_null ?_
  unfold Event.get?
  split
  · exact .none
  · exact rel_bind (h.get? _) fun _ _ hfirst => hfirst.walk _

namespace Alike

variable {engine : PatternEngine} {a b a' b' : Value}

theorem requireBool (h : Alike a b) (operator : String) :
    SameOutcome (· = ·) (a.requireBool operator) (b.requireBool operator) := by
  unfold Value.requireBool
  rw [h.toBool?_eq]
  split
  · exact .ok rfl
  · exact .error rfl

theorem condition (h : Alike a b) : SameOutcome (· = ·) a.condition b.condition := by
  unfold Value.condition
  rw [h.toBool?_eq]
  split
  · exact .ok rfl
  · exact .error rfl

theorem order (h : Alike a b) (h' : Alike a' b') (op : Operator) :
    SameOutcome (· = ·) (a.order op a') (b.order op b') := by
  unfold Value.order
  rw [h.isNumeric_eq, h'.isNumeric_eq, h.compareNumbers?_eq h']
  split
  · exact .error rfl
  · split
    · exact .ok rfl
    · exact .error rfl

theorem isIn (h : Alike a b) (h' : Alike a' b') (op : Operator) :
    SameOutcome (· = ·) (a.isIn op a') (b.isIn op b') := by
  cases h' with
  | list items => exact .ok (items.any_equal h)
  | number ha hb =>
    obtain ⟨m, rfl⟩ | ⟨x, rfl⟩ := numeric_cases ha <;>
      obtain ⟨n, rfl⟩ | ⟨y, rfl⟩ := numeric_cases hb <;> exact .error rfl
  | _ => exact .error rfl

theorem matchAnswer (h : Alike a b) (h' : Alike a' b') (op : Operator) :
    SameOutcome (· = ·) (op.matchAnswer engine a a') (op.matchAnswer engine b b') := by
  unfold Operator.matchAnswer
  rw [h.toString?_eq, h'.toString?_eq]
  split
  · exact .refl _
  · exact .error rfl

theorem answer (h : Alike a b) (h' : Alike a' b') (op : Operator) :
    SameOutcome (· = ·) (op.answer engine a a') (op.answer engine b b') := by
  have hnot : ∀ p q : Bool, p = q → (!p) = !q := fun _ _ heq => congrArg _ heq
  cases op with
  | equal =>
    rw [Operator.answer_equal, Operator.answer_equal]
    exact .ok (h.equal_congr h')
  | notEqual =>
    rw [Operator.answer_notEqual, Operator.answer_notEqual]
    exact .ok (hnot _ _ (h.equal_congr h'))
  | less | greater | lessEqual | greaterEqual =>
    rw [Operator.answer_comparison _ _ rfl, Operator.answer_comparison _ _ rfl]
    exact (h.order h' _).map fun _ _ heq => congrArg _ heq
  | «matches» =>
    rw [Operator.answer_matches, Operator.answer_matches]
    exact h.matchAnswer h' _
  | notMatches =>
    rw [Operator.answer_notMatches, Operator.answer_notMatches]
    exact (h.matchAnswer h' _).map hnot
  | member =>
    rw [Operator.answer_member, Operator.answer_member]
    exact h.isIn h' _
  | notMember =>
    rw [Operator.answer_notMember, Operator.answer_notMember]
    exact (h.isIn h' _).map hnot
  | and =>
    rw [Operator.answer_and, Operator.answer_and]
    exact .error rfl
  | or =>
    rw [Operator.answer_or, Operator.answer_or]
    exact .error rfl

end Alike
end Value

namespace Expr

mutual

/-- No literal of an expression is NaN. -/
def NaNFree : Expr → Prop
  | .float x => x.isNaN = false
  | .list items => AllNaNFree items
  | .not operand => NaNFree operand
  | .binary _ left right => NaNFree left ∧ NaNFree right
  | _ => True

def AllNaNFree : List Expr → Prop
  | [] => True
  | item :: rest => NaNFree item ∧ AllNaNFree rest

end

section

variable {engine : PatternEngine}

mutual

theorem eval_alike {v w : Event} (h : AlikeFields v.fields w.fields) :
    ∀ e : Expr, e.NaNFree → SameOutcome Alike (e.eval engine v) (e.eval engine w)
  | .float x, hx => by
    rw [eval_float, eval_float]
    cases hquantity : x.quantity? with
    | none =>
      rw [Binary64.quantity?_eq_none_iff, show x.isNaN = false from hx] at hquantity
      cases hquantity
    | some q => exact .ok (.number hquantity hquantity)
  | .integer n, _ => by
    rw [eval_integer, eval_integer]
    exact .ok (.number rfl rfl)
  | .string s, _ => by
    rw [eval_string, eval_string]
    exact .ok (.string s)
  | .boolean b, _ => by
    rw [eval_boolean, eval_boolean]
    exact .ok (.boolean b)
  | .null, _ => by
    rw [eval_null, eval_null]
    exact .ok .null
  | .pointer p, _ => by
    rw [eval_pointer, eval_pointer]
    exact .ok (h.lookup p)
  | .list items, hitems => by
    rw [eval_list, eval_list]
    exact (evalItems_alike h items hitems).map fun _ _ halike => .list halike
  | .not operand, hoperand => by
    have halike := eval_alike h operand hoperand
    rw [eval_not, eval_not]
    refine halike.bind fun a b hab => (hab.requireBool "not").bind ?_
    rintro p _ rfl
    exact .ok (.boolean !p)
  | .binary op left right, hoperands => by
    have hleft := eval_alike h left hoperands.1
    have hright := eval_alike h right hoperands.2
    by_cases hand : op = .and
    · subst hand
      rw [eval_and, eval_and]
      refine hleft.bind fun a b hab => (hab.requireBool "and").bind ?_
      rintro p _ rfl
      cases p with
      | false => exact .ok (.boolean false)
      | true =>
        refine hright.bind fun a b hab => (hab.requireBool "and").bind ?_
        rintro q _ rfl
        exact .ok (.boolean q)
    · by_cases hor : op = .or
      · subst hor
        rw [eval_or, eval_or]
        refine hleft.bind fun a b hab => (hab.requireBool "or").bind ?_
        rintro p _ rfl
        cases p with
        | true => exact .ok (.boolean true)
        | false =>
          refine hright.bind fun a b hab => (hab.requireBool "or").bind ?_
          rintro q _ rfl
          exact .ok (.boolean q)
      · rw [eval_binary v hand hor, eval_binary w hand hor]
        refine hleft.bind fun a b hab => hright.bind fun a' b' hab' => ?_
        refine (hab.answer hab' op).bind ?_
        rintro p _ rfl
        exact .ok (.boolean p)

theorem evalItems_alike {v w : Event} (h : AlikeFields v.fields w.fields) :
    ∀ items : List Expr, AllNaNFree items →
      SameOutcome AlikeItems (evalItems engine v items) (evalItems engine w items)
  | [], _ => by
    rw [evalItems_nil, evalItems_nil]
    exact .ok .nil
  | item :: rest, hitems => by
    have hfirst := eval_alike h item hitems.1
    have hrest := evalItems_alike h rest hitems.2
    rw [evalItems_cons, evalItems_cons]
    exact hfirst.bind fun a b hab => hrest.bind fun as bs habs => .ok (.cons hab habs)

end

theorem holds_alike {v w : Event} (h : AlikeFields v.fields w.fields) (e : Expr)
    (he : e.NaNFree) : SameOutcome (· = ·) (e.holds engine v) (e.holds engine w) :=
  (eval_alike h e he).bind fun _ _ hab => hab.condition

end

end Expr

theorem Event.alike_of_equal {v w : Event} (h : v.toValue.equal w.toValue = true) :
    AlikeFields v.fields w.fields := by
  cases Value.equal_iff_alike.1 h with
  | object fields => exact fields
  | number hv _ => cases hv

namespace Evaluator

/-- On equal events, evaluators give equal values or errors of one kind, whatever they have
evaluated before, and a condition is met by one event exactly if it is met by the other. -/
theorem evaluate_of_equal {engine : PatternEngine} {ev ev' : Evaluator engine}
    (hev : ev.Faithful) (hev' : ev'.Faithful) (e : Expr) (he : e.NaNFree) (v w : Event)
    (h : v.toValue.equal w.toValue = true) :
    SameOutcome (fun a b => a.equal b = true) (ev.evaluate e v).1 (ev'.evaluate e w).1 ∧
      ∀ b, (ev.evaluateConditional e v).1 = .ok b ↔ (ev'.evaluateConditional e w).1 = .ok b := by
  have hfields := Event.alike_of_equal h
  rw [evaluate_eq hev, evaluate_eq hev', evaluateConditional_eq hev, evaluateConditional_eq hev']
  constructor
  · exact (Expr.eval_alike hfields e he).imp fun _ _ hab => Value.equal_iff_alike.2 hab
  · exact (Expr.holds_alike hfields e he).eq_ok_iff

theorem evaluate_of_equal_mixed :
    let ev : Evaluator .plain := new
    let v : Event :=
      ⟨[("n", .integer 5), ("name", .string "xab"), ("tags", .list [.float .zero, .integer 1])]⟩
    let w : Event :=
      ⟨[("n", .float (.ofInt 5)), ("name", .string "xab"),
        ("tags", .list [.integer 0, .float (.ofInt 1)])]⟩
    let e := Expr.binary .and
      (.binary .member (.pointer ⟨["n"]⟩) (.list [.null, .integer 5]))
      (.binary .and (.binary .less (.pointer ⟨["tags", "0"]⟩) (.pointer ⟨["tags", "1"]⟩))
        (.binary .matches (.pointer ⟨["name"]⟩) (.string "ab")))
    e.NaNFree ∧ v.toValue.equal w.toValue = true ∧
      (SameOutcome (fun a b => a.equal b = true) (ev.evaluate e v).1 (ev.evaluate e w).1 ∧
        ∀ b, (ev.evaluateConditional e v).1 = .ok b ↔
          (ev.evaluateConditional e w).1 = .ok b) := by
  intro ev v w e
  have he : e.NaNFree :=
    ⟨⟨trivial, trivial, trivial, trivial⟩, ⟨trivial, trivial⟩, trivial, trivial⟩
  have hequal : v.toValue.equal w.toValue = true := by decide +kernel
  exact ⟨he, hequal, evaluate_of_equal faithful_new faithful_new e he v w hequal⟩

end Evaluator
end EventRouting
