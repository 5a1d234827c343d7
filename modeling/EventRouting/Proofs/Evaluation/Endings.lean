import EventRouting.Proofs.Evaluation.Memory
import EventRouting.Proofs.Evaluation.Outcome
import EventRouting.Proofs.Evaluation.PlainPatterns
import EventRouting.Proofs.Statement.RoundTrip

set_option autoImplicit false

namespace EventRouting

namespace Expr

mutual

def operators : Expr → List Operator
  | .list items => itemOperators items
  | .not operand => operators operand
  | .binary op left right => operators left ++ op :: operators right
  | _ => []

def itemOperators : List Expr → List Operator
  | [] => []
  | item :: rest => operators item ++ itemOperators rest

end

/-- What the values of an expression are known to be: those of an operation are booleans. -/
def Yields (e : Expr) (v : Value) : Prop := e.isOperation = true → ∃ b, v = .boolean b

end Expr

/-- The errors that evaluating some operators can end with. A pattern is reported only where one is
compiled, and if it is at fault. -/
def EvalError.Possible (engine : PatternEngine) (ops : List Operator) : EvalError → Prop
  | .typeCoercion _ => True
  | .patternCompilation pattern message =>
    (.matches ∈ ops ∨ .notMatches ∈ ops) ∧ engine.compile pattern = .error message
  | .unsupportedOperation _ => False

namespace EvalError.Possible

variable {engine : PatternEngine} {ops ops' : List Operator} {e : EvalError}

theorem of_kind (h : e.kind = .typeCoercion) : e.Possible engine ops := by
  cases e with
  | typeCoercion => trivial
  | patternCompilation => cases h
  | unsupportedOperation => cases h

theorem mono (h : e.Possible engine ops) (hops : ops ⊆ ops') : e.Possible engine ops' := by
  cases e with
  | typeCoercion => trivial
  | patternCompilation => exact ⟨h.1.imp (@hops _) (@hops _), h.2⟩
  | unsupportedOperation => exact h

end EvalError.Possible

namespace Value

variable {e : EvalError}

theorem requireBool_kind {operator : String} {v : Value}
    (h : v.requireBool operator = .error e) : e.kind = .typeCoercion := by
  unfold requireBool at h
  split at h <;> cases h
  rfl

theorem order_kind {op : Operator} {left right : Value}
    (h : left.order op right = .error e) : e.kind = .typeCoercion := by
  unfold order at h
  split at h
  · cases h
    rfl
  · split at h <;> cases h
    rfl

theorem isIn_kind {op : Operator} {needle haystack : Value}
    (h : needle.isIn op haystack = .error e) : e.kind = .typeCoercion := by
  unfold isIn at h
  split at h <;> cases h
  rfl

theorem condition_kind {v : Value} (h : v.condition = .error e) : e.kind = .typeCoercion := by
  unfold condition at h
  split at h <;> cases h
  rfl

end Value

theorem Memory.compute_of_fetch {α ε : Type} {compute : String → Except ε α} {text : String}
    {memory : Memory α} {e : ε} (h : (fetch compute text memory).1 = .error e) :
    compute text = .error e := by
  unfold fetch at h
  split at h
  · cases h
  · split at h
    · cases h
    · cases h
      assumption

/-- Whatever patterns are remembered, a computation gives a value with one property, or an error
that some operators can give. -/
def Ends (engine : PatternEngine) {α : Type} (property : α → Prop) (ops : List Operator)
    (x : ExceptT EvalError (StateM (Memory engine.Compiled)) α) : Prop :=
  ∀ memory, match (x.run memory).1 with
    | .ok a => property a
    | .error e => e.Possible engine ops

namespace Ends

variable {engine : PatternEngine} {α β : Type} {P : α → Prop} {Q : β → Prop}
  {ops ops' : List Operator}
  {x : ExceptT EvalError (StateM (Memory engine.Compiled)) α}

theorem of_ok (h : Ends engine P ops x) {memory : Memory engine.Compiled} {a : α}
    (ha : (x.run memory).1 = .ok a) : P a := by
  have hx := h memory
  rw [ha] at hx
  exact hx

theorem of_error (h : Ends engine P ops x) {memory : Memory engine.Compiled} {e : EvalError}
    (he : (x.run memory).1 = .error e) : e.Possible engine ops := by
  have hx := h memory
  rw [he] at hx
  exact hx

theorem pure {a : α} (h : P a) : Ends engine P ops (pure a) := fun _ => h

theorem throw {e : EvalError} (h : e.Possible engine ops) : Ends engine P ops (throw e) :=
  fun _ => h

theorem lift {y : Except EvalError α} (h : ∀ e, y = .error e → e.kind = .typeCoercion) :
    Ends engine (fun _ => True) ops (liftM y) := by
  intro memory
  cases y with
  | ok a => trivial
  | error e => exact .of_kind (h e rfl)

theorem bind {f : α → ExceptT EvalError (StateM (Memory engine.Compiled)) β}
    (hx : Ends engine P ops x)
    (hf : ∀ a, P a → Ends engine Q ops (f a)) : Ends engine Q ops (x >>= f) := by
  intro memory
  have hrun : (x >>= f).run memory =
      ExceptT.bindCont f (x.run memory).1 (x.run memory).2 := rfl
  rw [hrun]
  cases hresult : (x.run memory).1 with
  | ok a => exact hf a (hx.of_ok hresult) _
  | error e => exact hx.of_error hresult

theorem mono (h : Ends engine P ops x) (hops : ops ⊆ ops') : Ends engine P ops' x := by
  intro memory
  have hx := h memory
  split at hx
  · exact hx
  · exact hx.mono hops

theorem compile (pattern : String) :
    Ends engine (fun result => ∀ message,
      result = .error message → engine.compile pattern = .error message)
      ops (liftM (Memory.fetch engine.compile pattern)) :=
  fun _ _ => Memory.compute_of_fetch

theorem matchPattern {op : Operator} (hop : .matches ∈ ops ∨ .notMatches ∈ ops)
    (left right : Value) : Ends engine (fun _ => True) ops
      (EventRouting.matchPattern (Memory.fetch engine.compile) op left right) := by
  unfold EventRouting.matchPattern
  split
  · refine (compile _).bind fun result hresult => ?_
    cases result with
    | ok p => exact pure trivial
    | error message => exact throw ⟨hop, hresult message rfl⟩
  · exact throw trivial

theorem apply {op : Operator} (hop : op ∈ ops) (hand : op ≠ .and) (hor : op ≠ .or)
    (left right : Value) :
    Ends engine (fun _ => True) ops (op.apply (Memory.fetch engine.compile) left right) := by
  cases op with
  | equal | notEqual => exact pure trivial
  | less | greater | lessEqual | greaterEqual =>
    exact (lift fun _ => Value.order_kind).bind fun _ _ => pure trivial
  | «matches» => exact matchPattern (.inl hop) left right
  | notMatches => exact (matchPattern (.inr hop) left right).bind fun _ _ => pure trivial
  | member => exact lift fun _ => Value.isIn_kind
  | notMember => exact (lift fun _ => Value.isIn_kind).bind fun _ _ => pure trivial
  | and => exact absurd rfl hand
  | or => exact absurd rfl hor

theorem requireBool (operator : String) (v : Value) :
    Ends engine (fun _ => True) ops (liftM (v.requireBool operator)) :=
  lift fun _ => Value.requireBool_kind

theorem leaf {e : Expr} (he : e.isOperation = false) (v : Value) :
    Ends engine e.Yields ops (Pure.pure v) :=
  pure fun h => absurd h (by simp [he])

mutual

theorem evalWith (event : Event) :
    ∀ e : Expr, Ends engine e.Yields e.operators (e.evalWith (Memory.fetch engine.compile) event)
  | .float _ => leaf rfl _
  | .integer _ => leaf rfl _
  | .string _ => leaf rfl _
  | .boolean _ => leaf rfl _
  | .null => leaf rfl _
  | .pointer _ => leaf rfl _
  | .list items => by
    rw [Expr.evalWith]
    exact (evalItemsWith event items).bind fun _ _ => leaf rfl _
  | .not operand => by
    rw [Expr.evalWith]
    exact (evalWith event operand).bind fun v _ =>
      (requireBool "not" v).bind fun b _ => pure fun _ => ⟨!b, rfl⟩
  | .binary op left right => by
    have hleft : Ends engine left.Yields (Expr.binary op left right).operators _ :=
      (evalWith event left).mono (List.subset_append_left _ _)
    have hright : Ends engine right.Yields (Expr.binary op left right).operators _ :=
      (evalWith event right).mono fun _ h => List.mem_append_right _ (List.mem_cons_of_mem _ h)
    have hop : op ∈ (Expr.binary op left right).operators :=
      List.mem_append_right _ List.mem_cons_self
    have hboolean (b : Bool) : (Expr.binary op left right).Yields (.boolean b) := fun _ => ⟨b, rfl⟩
    cases op with
    | and =>
      rw [Expr.evalWith]
      refine hleft.bind fun l _ => (requireBool "and" l).bind fun b _ => ?_
      cases b with
      | true => exact hright.bind fun r _ => (requireBool "and" r).bind fun b _ => pure (hboolean b)
      | false => exact pure (hboolean false)
    | or =>
      rw [Expr.evalWith]
      refine hleft.bind fun l _ => (requireBool "or" l).bind fun b _ => ?_
      cases b with
      | true => exact pure (hboolean true)
      | false => exact hright.bind fun r _ => (requireBool "or" r).bind fun b _ => pure (hboolean b)
    | _ =>
      exact hleft.bind fun l _ => hright.bind fun r _ =>
        (apply hop (by simp) (by simp) l r).bind fun b _ => pure (hboolean b)

theorem evalItemsWith (event : Event) :
    ∀ items : List Expr, Ends engine (fun _ => True) (Expr.itemOperators items)
      (Expr.evalItemsWith (Memory.fetch engine.compile) event items)
  | [] => pure trivial
  | item :: rest => by
    have hfirst := (evalWith event item).mono
      (List.subset_append_left item.operators (Expr.itemOperators rest))
    have hrest := (evalItemsWith event rest).mono
      (List.subset_append_right item.operators (Expr.itemOperators rest))
    rw [Expr.evalItemsWith]
    exact hfirst.bind fun _ _ => hrest.bind fun _ _ => pure trivial

end

end Ends

namespace Evaluator

variable {engine : PatternEngine} (ev : Evaluator engine) (e : Expr) (event : Event)

theorem possible_of_evaluate {error : EvalError} (h : (ev.evaluate e event).1 = .error error) :
    error.Possible engine e.operators :=
  (Ends.evalWith event e).of_error h

theorem yields_of_evaluate {v : Value} (h : (ev.evaluate e event).1 = .ok v) : e.Yields v :=
  (Ends.evalWith event e).of_ok h

theorem possible_of_evaluateConditional {error : EvalError}
    (h : (ev.evaluateConditional e event).1 = .error error) :
    error.Possible engine e.operators := by
  have hverdict : ((ev.evaluate e event).1 >>= Value.condition) = .error error := h
  cases hvalue : (ev.evaluate e event).1 with
  | ok v =>
    rw [hvalue] at hverdict
    exact .of_kind (Value.condition_kind hverdict)
  | error error' =>
    rw [hvalue] at hverdict
    cases hverdict
    exact possible_of_evaluate ev e event hvalue

theorem evaluate_operation (he : e.isOperation = true) :
    (ev.evaluate e event).1 = (ev.evaluateConditional e event).1.map Value.boolean := by
  show _ = ((ev.evaluate e event).1 >>= Value.condition).map Value.boolean
  cases hvalue : (ev.evaluate e event).1 with
  | ok v =>
    obtain ⟨b, rfl⟩ := yields_of_evaluate ev e event hvalue he
    rfl
  | error error => rfl

/-- Whatever an evaluator remembers: neither way of evaluating gives the error reserved for `and`
and `or`. The value of an operation is its verdict, as a boolean, or they fail with one error; and
if nothing wrong is remembered, the verdict does not depend on what is. A pattern is reported only
by an expression with `=~` or `!~`, and only one that does not compile. -/
theorem evaluate_ends :
    (∀ op, (ev.evaluate e event).1 ≠ .error (.unsupportedOperation op) ∧
      (ev.evaluateConditional e event).1 ≠ .error (.unsupportedOperation op)) ∧
    (e.isOperation = true → ∃ verdict : Except EvalError Bool,
      (ev.evaluate e event).1 = verdict.map Value.boolean ∧
      (ev.evaluateConditional e event).1 = verdict ∧
      (ev.Faithful → verdict = e.holds engine event)) ∧
    ∀ pattern message,
      (ev.evaluate e event).1 = .error (.patternCompilation pattern message) ∨
        (ev.evaluateConditional e event).1 = .error (.patternCompilation pattern message) →
      (.matches ∈ e.operators ∨ .notMatches ∈ e.operators) ∧
        engine.compile pattern = .error message := by
  refine ⟨fun op => ⟨?_, ?_⟩, fun he => ?_, ?_⟩
  · exact possible_of_evaluate ev e event
  · exact possible_of_evaluateConditional ev e event
  · refine ⟨(ev.evaluateConditional e event).1, evaluate_operation ev e event he, rfl, ?_⟩
    exact fun hev => evaluateConditional_eq hev e event
  · rintro pattern message (h | h)
    · exact possible_of_evaluate ev e event h
    · exact possible_of_evaluateConditional ev e event h

theorem evaluate_ends_pattern :
    let ev : Evaluator .plain := new
    let event : Event := ⟨[("name", .string "x")]⟩
    let e := Expr.not (.binary .or (.boolean false)
      (.binary .matches (.pointer ⟨["name"]⟩) (.string "(")))
    let message := "regex parse error:\n    (\n    ^\nerror: unclosed group"
    e.isOperation = true ∧
      (ev.evaluate e event).1 = .error (.patternCompilation "(" message) ∧
      (∃ verdict : Except EvalError Bool, (ev.evaluate e event).1 = verdict.map Value.boolean ∧
        (ev.evaluateConditional e event).1 = verdict ∧
        (ev.Faithful → verdict = e.holds .plain event)) ∧
      PatternEngine.plain.compile "(" = .error message := by
  intro ev event e message
  have hvalue : (ev.evaluate e event).1 = .error (.patternCompilation "(" message) := by
    with_unfolding_all rfl
  obtain ⟨-, hoperation, hpattern⟩ := evaluate_ends ev e event
  exact ⟨rfl, hvalue, hoperation rfl, (hpattern _ _ (.inl hvalue)).2⟩

end Evaluator
end EventRouting
