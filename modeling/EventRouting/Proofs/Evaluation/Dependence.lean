import EventRouting.Proofs.Evaluation.Memory
import EventRouting.Proofs.Evaluation.PlainPatterns

set_option autoImplicit false

namespace EventRouting

namespace Event

def read (event : Event) (p : Pointer) : Value := (event.get? p).getD .null

/-- Two events read the same at some pointers. -/
def AgreeAt (ps : List Pointer) (v w : Event) : Prop := ∀ p ∈ ps, v.read p = w.read p

theorem AgreeAt.left {ps qs : List Pointer} {v w : Event} (h : AgreeAt (ps ++ qs) v w) :
    AgreeAt ps v w :=
  fun p hp => h p (List.mem_append_left qs hp)

theorem AgreeAt.right {ps qs : List Pointer} {v w : Event} (h : AgreeAt (ps ++ qs) v w) :
    AgreeAt qs v w :=
  fun p hp => h p (List.mem_append_right ps hp)

end Event

namespace Expr

open Event (AgreeAt)

mutual

def pointers : Expr → List Pointer
  | .pointer p => [p]
  | .list items => itemPointers items
  | .not operand => pointers operand
  | .binary _ left right => pointers left ++ pointers right
  | _ => []

def itemPointers : List Expr → List Pointer
  | [] => []
  | item :: rest => pointers item ++ itemPointers rest

end

section

variable {engine : PatternEngine} {m : Type → Type} [Monad m]
variable (compile : String → m (Except String engine.Compiled))
variable {v w : Event}

mutual

/-- Events that read the same at an expression's pointers give one evaluation, with the same
patterns compiled in the same order. -/
theorem evalWith_of_agreeAt :
    ∀ e : Expr, AgreeAt e.pointers v w → e.evalWith compile v = e.evalWith compile w
  | .float _, _ | .integer _, _ | .string _, _ | .boolean _, _ | .null, _ => rfl
  | .pointer p, h => by
    rw [evalWith, evalWith]
    exact congrArg pure (h p (List.mem_singleton_self p))
  | .list items, h => by
    rw [evalWith, evalWith, evalItemsWith_of_agreeAt items h]
  | .not operand, h => by
    rw [evalWith, evalWith, evalWith_of_agreeAt operand h]
  | .binary op left right, h => by
    have hleft := evalWith_of_agreeAt left h.left
    have hright := evalWith_of_agreeAt right h.right
    cases op with
    | and | or => rw [evalWith, evalWith, hleft, hright]
    | _ => simp only [evalWith, hleft, hright]

theorem evalItemsWith_of_agreeAt :
    ∀ items : List Expr, AgreeAt (itemPointers items) v w →
      evalItemsWith compile v items = evalItemsWith compile w items
  | [], _ => rfl
  | item :: rest, h => by
    rw [evalItemsWith, evalItemsWith, evalWith_of_agreeAt item h.left,
      evalItemsWith_of_agreeAt rest h.right]

end
end

end Expr

namespace Evaluator

/-- Two events that read the same at the pointers of an expression, a missing field as null, cannot
be told apart by it: they give the same value or the same error, the same verdict on a condition,
and leave the same evaluator; and the answers stay the same if other expressions were evaluated
before. -/
theorem evaluate_of_agreeAt (engine : PatternEngine) (e : Expr) (v w : Event)
    (h : ∀ p ∈ e.pointers, (v.get? p).getD .null = (w.get? p).getD .null) :
    (∀ ev : Evaluator engine, ev.evaluate e v = ev.evaluate e w ∧
      ev.evaluateConditional e v = ev.evaluateConditional e w) ∧
    ∀ ev ev' : Evaluator engine, ev.Faithful → ev'.Faithful →
      (ev.evaluate e v).1 = (ev'.evaluate e w).1 ∧
      (ev.evaluateConditional e v).1 = (ev'.evaluateConditional e w).1 := by
  have hsame (ev : Evaluator engine) : ev.evaluate e v = ev.evaluate e w := by
    unfold evaluate
    rw [Expr.evalWith_of_agreeAt _ e h]
  have hcondition (ev : Evaluator engine) :
      ev.evaluateConditional e v = ev.evaluateConditional e w := by
    unfold evaluateConditional
    rw [hsame ev]
  refine ⟨fun ev => ⟨hsame ev, hcondition ev⟩, fun ev ev' hev hev' => ⟨?_, ?_⟩⟩
  · rw [hsame ev, evaluate_eq hev, evaluate_eq hev']
  · rw [hcondition ev, evaluateConditional_eq hev, evaluateConditional_eq hev']

theorem evaluate_of_agreeAt_missing :
    let ev : Evaluator .plain := new
    let v : Event := ⟨[("host", .string "x"), ("port", .null)]⟩
    let w : Event := ⟨[("host", .string "x"), ("secret", .integer 1)]⟩
    let e := Expr.binary .and (.binary .equal (.pointer ⟨["port"]⟩) .null)
      (.binary .and (.binary .matches (.string "xy") (.pointer ⟨["host"]⟩))
        (.binary .less (.list [.pointer ⟨["host"]⟩]) (.pointer ⟨["port", "0"]⟩)))
    (∀ p ∈ e.pointers, (v.get? p).getD .null = (w.get? p).getD .null) ∧
      ev.evaluate e v = ev.evaluate e w ∧
      (ev.evaluate e w).1 = .error (.typeCoercion (.comparison "list" .less "null")) := by
  intro ev v w e
  have hread : ∀ p ∈ e.pointers, (v.get? p).getD .null = (w.get? p).getD .null := by
    simp only [e, Expr.pointers, Expr.itemPointers, List.append_nil, List.nil_append,
      List.cons_append, List.forall_mem_cons]
    exact ⟨rfl, rfl, rfl, rfl, fun p hp => absurd hp List.not_mem_nil⟩
  exact ⟨hread, ((evaluate_of_agreeAt .plain e v w hread).1 ev).1, rfl⟩

end Evaluator
end EventRouting
