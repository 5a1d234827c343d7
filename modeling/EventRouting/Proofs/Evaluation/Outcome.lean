import EventRouting.Evaluation.Error

set_option autoImplicit false

namespace EventRouting

inductive EvalError.Kind
  | typeCoercion
  | patternCompilation
  | unsupportedOperation
deriving DecidableEq

def EvalError.kind : EvalError → Kind
  | .typeCoercion _ => .typeCoercion
  | .patternCompilation _ _ => .patternCompilation
  | .unsupportedOperation _ => .unsupportedOperation

inductive SameOutcome {α β : Type} (R : α → β → Prop) :
    Except EvalError α → Except EvalError β → Prop
  | ok {a : α} {b : β} : R a b → SameOutcome R (.ok a) (.ok b)
  | error {e e' : EvalError} : e.kind = e'.kind → SameOutcome R (.error e) (.error e')

namespace SameOutcome

variable {α β γ δ : Type} {R : α → β → Prop} {S : γ → δ → Prop}
  {x : Except EvalError α} {y : Except EvalError β}

theorem bind {f : α → Except EvalError γ} {g : β → Except EvalError δ} (h : SameOutcome R x y)
    (hf : ∀ a b, R a b → SameOutcome S (f a) (g b)) : SameOutcome S (x >>= f) (y >>= g) := by
  cases h with
  | ok hab => exact hf _ _ hab
  | error hkind => exact .error hkind

theorem map {f : α → γ} {g : β → δ} (h : SameOutcome R x y)
    (hf : ∀ a b, R a b → S (f a) (g b)) : SameOutcome S (x.map f) (y.map g) := by
  cases h with
  | ok hab => exact .ok (hf _ _ hab)
  | error hkind => exact .error hkind

theorem imp {R' : α → β → Prop} (h : SameOutcome R x y) (himp : ∀ a b, R a b → R' a b) :
    SameOutcome R' x y := by
  cases h with
  | ok hab => exact .ok (himp _ _ hab)
  | error hkind => exact .error hkind

theorem refl (x : Except EvalError α) : SameOutcome (· = ·) x x := by
  cases x with
  | ok a => exact .ok rfl
  | error e => exact .error rfl

theorem eq_ok_iff {x y : Except EvalError α} (h : SameOutcome (· = ·) x y) (a : α) :
    x = .ok a ↔ y = .ok a := by
  cases h with
  | ok hab => rw [hab]
  | error _ => simp

end SameOutcome
end EventRouting
