import EventRouting.Proofs.Evaluation.Equations
import EventRouting.Proofs.Evaluation.Memory
import EventRouting.Proofs.Evaluation.Outcome
import EventRouting.Proofs.Evaluation.PlainPatterns

set_option autoImplicit false

/-!
# The laws of logic

`and`, `or` and `not` act on the verdicts of their operands: the right one counts only where the
left one does not decide, and a failure that counts is the result. Verdicts obey the laws of
associativity, De Morgan and distribution, failures included. A message names the operator that
asked for a truth value, so where a law gives an operand another operator, the two sides of the law
agree up to messages.
-/
namespace EventRouting

namespace Verdict

variable {ε : Type} (x y z : Except ε Bool)

def both : Except ε Bool := do if ← x then y else return false

def either : Except ε Bool := do if ← x then return true else y

def opposite : Except ε Bool := x.map (!·)

theorem both_assoc : both (both x y) z = both x (both y z) := by
  cases x with
  | error e => rfl
  | ok b => cases b <;> rfl

theorem either_assoc : either (either x y) z = either x (either y z) := by
  cases x with
  | error e => rfl
  | ok b => cases b <;> rfl

theorem opposite_both : opposite (both x y) = either (opposite x) (opposite y) := by
  cases x with
  | error e => rfl
  | ok b => cases b <;> rfl

theorem opposite_either : opposite (either x y) = both (opposite x) (opposite y) := by
  cases x with
  | error e => rfl
  | ok b => cases b <;> rfl

theorem both_either : both x (either y z) = either (both x y) (both x z) := by
  cases x with
  | error e => rfl
  | ok b =>
    cases b with
    | false => rfl
    | true =>
      cases y with
      | error e => rfl
      | ok b => cases b <;> rfl

theorem either_both : either x (both y z) = both (either x y) (either x z) := by
  cases x with
  | error e => rfl
  | ok b =>
    cases b with
    | true => rfl
    | false =>
      cases y with
      | error e => rfl
      | ok b => cases b <;> rfl

section

variable {x x' y y' : Except EvalError Bool}

theorem both_congr (hx : SameOutcome (· = ·) x x') (hy : SameOutcome (· = ·) y y') :
    SameOutcome (· = ·) (both x y) (both x' y') := by
  refine hx.bind ?_
  rintro b _ rfl
  cases b with
  | false => exact .ok rfl
  | true => exact hy

theorem either_congr (hx : SameOutcome (· = ·) x x') (hy : SameOutcome (· = ·) y y') :
    SameOutcome (· = ·) (either x y) (either x' y') := by
  refine hx.bind ?_
  rintro b _ rfl
  cases b with
  | false => exact hy
  | true => exact .ok rfl

theorem opposite_congr (hx : SameOutcome (· = ·) x x') :
    SameOutcome (· = ·) (opposite x) (opposite x') :=
  hx.map fun _ _ heq => congrArg _ heq

end

end Verdict

namespace Expr

open Verdict

def verdict (engine : PatternEngine) (event : Event) (operator : String) (e : Expr) :
    Except EvalError Bool := do
  (← e.eval engine event).requireBool operator

variable {engine : PatternEngine} (event : Event)

theorem verdict_bind {α : Type} (operator : String) (e : Expr) (f : Bool → Except EvalError α) :
    e.verdict engine event operator >>= f =
      e.eval engine event >>= fun v => v.requireBool operator >>= f :=
  bind_assoc (e.eval engine event) _ f

theorem eval_not_eq (e : Expr) :
    (Expr.not e).eval engine event = (opposite (e.verdict engine event "not")).map .boolean := by
  rw [eval_not]
  simp only [← verdict_bind]
  cases e.verdict engine event "not" <;> rfl

theorem eval_and_eq (left right : Expr) :
    (binary .and left right).eval engine event =
      (both (left.verdict engine event "and") (right.verdict engine event "and")).map .boolean := by
  rw [eval_and]
  simp only [← verdict_bind]
  cases left.verdict engine event "and" with
  | error _ => rfl
  | ok b =>
    cases b with
    | false => rfl
    | true => cases right.verdict engine event "and" <;> rfl

theorem eval_or_eq (left right : Expr) :
    (binary .or left right).eval engine event =
      (either (left.verdict engine event "or") (right.verdict engine event "or")).map .boolean := by
  rw [eval_or]
  simp only [← verdict_bind]
  cases left.verdict engine event "or" with
  | error _ => rfl
  | ok b =>
    cases b with
    | false => cases right.verdict engine event "or" <;> rfl
    | true => rfl

theorem verdict_of_eval {e : Expr} {x : Except EvalError Bool}
    (h : e.eval engine event = x.map .boolean) (operator : String) :
    e.verdict engine event operator = x := by
  rw [verdict, h]
  cases x <;> rfl

theorem verdict_same (e : Expr) (operator operator' : String) :
    SameOutcome (· = ·) (e.verdict engine event operator) (e.verdict engine event operator') := by
  refine (SameOutcome.refl (e.eval engine event)).bind ?_
  rintro v _ rfl
  unfold Value.requireBool
  split
  · exact .ok rfl
  · exact .error rfl

/-- Two expressions have the same result, value or error, for every event and whatever was
evaluated before. -/
def SameResult (engine : PatternEngine) (e f : Expr) : Prop :=
  ∀ (event : Event) (ev ev' : Evaluator engine), ev.Faithful → ev'.Faithful →
    (ev.evaluate e event).1 = (ev'.evaluate f event).1 ∧
      (ev.evaluateConditional e event).1 = (ev'.evaluateConditional f event).1

/-- Two expressions have the same value or errors of one kind, for every event and whatever was
evaluated before. -/
def SameUpToMessage (engine : PatternEngine) (e f : Expr) : Prop :=
  ∀ (event : Event) (ev ev' : Evaluator engine), ev.Faithful → ev'.Faithful →
    SameOutcome (· = ·) (ev.evaluate e event).1 (ev'.evaluate f event).1 ∧
      SameOutcome (· = ·) (ev.evaluateConditional e event).1
        (ev'.evaluateConditional f event).1

variable {e f : Expr}

theorem sameResult_of_eval (h : ∀ event, e.eval engine event = f.eval engine event) :
    SameResult engine e f := by
  intro event ev ev' hev hev'
  rw [Evaluator.evaluate_eq hev, Evaluator.evaluate_eq hev', Evaluator.evaluateConditional_eq hev,
    Evaluator.evaluateConditional_eq hev', holds, holds, h event]
  exact ⟨rfl, rfl⟩

theorem sameUpToMessage_of_eval {x y : Event → Except EvalError Bool}
    (he : ∀ event, e.eval engine event = (x event).map .boolean)
    (hf : ∀ event, f.eval engine event = (y event).map .boolean)
    (h : ∀ event, SameOutcome (· = ·) (x event) (y event)) : SameUpToMessage engine e f := by
  intro event ev ev' hev hev'
  have heval : SameOutcome (· = ·) (e.eval engine event) (f.eval engine event) := by
    rw [he, hf]
    exact (h event).map fun _ _ heq => congrArg _ heq
  rw [Evaluator.evaluate_eq hev, Evaluator.evaluate_eq hev', Evaluator.evaluateConditional_eq hev,
    Evaluator.evaluateConditional_eq hev']
  refine ⟨heval, heval.bind ?_⟩
  rintro v _ rfl
  exact .refl v.condition

/-- `and` and `or` are associative, failures and their messages included. De Morgan's laws and the
laws of distribution hold up to messages: both sides have the same value, or both fail with errors
of one kind. -/
theorem logic_laws (engine : PatternEngine) (a b c : Expr) :
    SameResult engine (.binary .and (.binary .and a b) c) (.binary .and a (.binary .and b c)) ∧
    SameResult engine (.binary .or (.binary .or a b) c) (.binary .or a (.binary .or b c)) ∧
    SameUpToMessage engine (.not (.binary .and a b)) (.binary .or (.not a) (.not b)) ∧
    SameUpToMessage engine (.not (.binary .or a b)) (.binary .and (.not a) (.not b)) ∧
    SameUpToMessage engine (.binary .and a (.binary .or b c))
      (.binary .or (.binary .and a b) (.binary .and a c)) ∧
    SameUpToMessage engine (.binary .or a (.binary .and b c))
      (.binary .and (.binary .or a b) (.binary .or a c)) := by
  have hnot (operator : String) (e : Expr) (event : Event) :
      (Expr.not e).verdict engine event operator = _ :=
    verdict_of_eval event (eval_not_eq event e) operator
  have hand (operator : String) (l r : Expr) (event : Event) :
      (binary .and l r).verdict engine event operator = _ :=
    verdict_of_eval event (eval_and_eq event l r) operator
  have hor (operator : String) (l r : Expr) (event : Event) :
      (binary .or l r).verdict engine event operator = _ :=
    verdict_of_eval event (eval_or_eq event l r) operator
  refine ⟨?_, ?_, ?_, ?_, ?_, ?_⟩
  · refine sameResult_of_eval fun event => ?_
    rw [eval_and_eq, eval_and_eq, hand, hand, both_assoc]
  · refine sameResult_of_eval fun event => ?_
    rw [eval_or_eq, eval_or_eq, hor, hor, either_assoc]
  · refine sameUpToMessage_of_eval (fun event => eval_not_eq event _)
      (fun event => eval_or_eq event _ _) fun event => ?_
    rw [hand, hnot, hnot, opposite_both]
    exact either_congr (opposite_congr (verdict_same event a _ _))
      (opposite_congr (verdict_same event b _ _))
  · refine sameUpToMessage_of_eval (fun event => eval_not_eq event _)
      (fun event => eval_and_eq event _ _) fun event => ?_
    rw [hor, hnot, hnot, opposite_either]
    exact both_congr (opposite_congr (verdict_same event a _ _))
      (opposite_congr (verdict_same event b _ _))
  · refine sameUpToMessage_of_eval (fun event => eval_and_eq event _ _)
      (fun event => eval_or_eq event _ _) fun event => ?_
    rw [hor, hand, hand, both_either]
    exact either_congr (both_congr (.refl _) (verdict_same event b _ _))
      (both_congr (.refl _) (verdict_same event c _ _))
  · refine sameUpToMessage_of_eval (fun event => eval_or_eq event _ _)
      (fun event => eval_and_eq event _ _) fun event => ?_
    rw [hand, hor, hor, either_both]
    exact both_congr (either_congr (.refl _) (verdict_same event b _ _))
      (either_congr (.refl _) (verdict_same event c _ _))

example :
    (Expr.not (.binary .and .null (.boolean true))).eval .plain ⟨[]⟩ =
        .error (.typeCoercion (.logicOperand "and" "null")) ∧
      (Expr.binary .or (.not .null) (.not (.boolean true))).eval .plain ⟨[]⟩ =
        .error (.typeCoercion (.logicOperand "not" "null")) :=
  ⟨rfl, rfl⟩

end Expr
end EventRouting
