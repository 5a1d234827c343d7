import EventRouting.Evaluation.Evaluator

set_option autoImplicit false

namespace EventRouting

namespace Memory

variable {α ε : Type} {compute : String → Except ε α} {memory : Memory α}

/-- What is remembered under a text is what is computed from it. -/
def Faithful (compute : String → Except ε α) (memory : Memory α) : Prop :=
  ∀ text a, memory.lookup text = some a → compute text = .ok a

theorem faithful_nil : Faithful compute [] := by
  rintro text a ⟨⟩

theorem Faithful.remember (h : Faithful compute memory) {text : String} {a : α}
    (ha : compute text = .ok a) : Faithful compute (memory.remember text a) := by
  unfold Memory.remember
  split
  · intro key b hb
    rw [List.lookup_cons] at hb
    split at hb
    · rename_i heq
      rw [eq_of_beq heq, ha, Option.some.inj hb]
    · exact h key b hb
  · exact h

theorem fetch_eq (h : Faithful compute memory) (text : String) :
    (fetch compute text memory).1 = compute text := by
  unfold fetch
  split
  · rename_i a hlookup
    exact (h text a hlookup).symm
  · split
    · rename_i a ha
      exact ha.symm
    · rename_i e he
      exact he.symm

theorem Faithful.fetch (h : Faithful compute memory) (text : String) :
    Faithful compute (fetch compute text memory).2 := by
  unfold Memory.fetch
  split
  · exact h
  · split
    · exact h.remember ‹_›
    · exact h

theorem length_remember_le (h : memory.length ≤ memoryLimit) (text : String) (a : α) :
    (memory.remember text a).length ≤ memoryLimit := by
  unfold remember
  split
  · rename_i hroom
    exact hroom
  · exact h

theorem length_fetch_le (h : memory.length ≤ memoryLimit) (text : String) :
    (fetch compute text memory).2.length ≤ memoryLimit := by
  unfold fetch
  split
  · exact h
  · split
    · exact length_remember_le h text _
    · exact h

/-- While a memory has a property, lookups answer as the computation does and keep the property. -/
def Transparent (compute : String → Except ε α) (property : Memory α → Prop) : Prop :=
  ∀ text memory, property memory →
    (fetch compute text memory).1 = compute text ∧ property (fetch compute text memory).2

theorem transparent_faithful : Transparent compute (Faithful compute) :=
  fun text _ h => ⟨fetch_eq h text, h.fetch text⟩

theorem transparent_bounded :
    Transparent compute fun memory => Faithful compute memory ∧ memory.length ≤ memoryLimit :=
  fun text _ ⟨h, hlength⟩ => ⟨fetch_eq h text, h.fetch text, length_fetch_le hlength text⟩

end Memory

/-- While the memory has a property, `x` answers as `y` does and keeps the property. -/
def Agrees {engine : PatternEngine} {α : Type} (property : Memory engine.Compiled → Prop)
    (x : ExceptT EvalError (StateM (Memory engine.Compiled)) α) (y : ExceptT EvalError Id α) :
    Prop :=
  ∀ memory, property memory → (x.run memory).1 = y.run ∧ property (x.run memory).2

namespace Agrees

variable {engine : PatternEngine} {α β : Type} {property : Memory engine.Compiled → Prop}

theorem pure (a : α) : Agrees property (pure a) (pure a) :=
  fun _ h => ⟨rfl, h⟩

theorem throw (e : EvalError) : Agrees (α := α) property (throw e) (throw e) :=
  fun _ h => ⟨rfl, h⟩

theorem lift (x : Except EvalError α) : Agrees property (liftM x) (liftM x) :=
  fun _ h => ⟨rfl, h⟩

theorem bind {x : ExceptT EvalError (StateM (Memory engine.Compiled)) α}
    {y : ExceptT EvalError Id α}
    {f : α → ExceptT EvalError (StateM (Memory engine.Compiled)) β} {g : α → ExceptT EvalError Id β}
    (hx : Agrees property x y) (hf : ∀ a, Agrees property (f a) (g a)) :
    Agrees property (x >>= f) (y >>= g) := by
  intro memory h
  obtain ⟨hvalue, hmemory⟩ := hx memory h
  have hleft : (x >>= f).run memory =
      ExceptT.bindCont f (x.run memory).1 (x.run memory).2 := rfl
  have hright : (y >>= g).run = ExceptT.bindCont g y.run := rfl
  rw [hleft, hright, ← hvalue]
  cases (x.run memory).1 with
  | ok a => exact hf a _ hmemory
  | error e => exact ⟨rfl, hmemory⟩

section

variable (hproperty : Memory.Transparent engine.compile property)

include hproperty

theorem compile (pattern : String) :
    Agrees property (liftM (Memory.fetch engine.compile pattern))
      (liftM (m := Id) (n := ExceptT EvalError Id) (engine.compile pattern)) := by
  intro memory h
  obtain ⟨hvalue, hmemory⟩ := hproperty pattern memory h
  exact ⟨congrArg Except.ok hvalue, hmemory⟩

theorem matchPattern (op : Operator) (left right : Value) :
    Agrees property (EventRouting.matchPattern (Memory.fetch engine.compile) op left right)
      (EventRouting.matchPattern (m := Id) engine.compile op left right) := by
  unfold EventRouting.matchPattern
  split
  · refine (compile hproperty _).bind fun result => ?_
    cases result with
    | ok p => exact pure _
    | error fault => exact throw _
  · exact throw _

theorem apply (op : Operator) (left right : Value) :
    Agrees property (op.apply (Memory.fetch engine.compile) left right)
      (op.apply (m := Id) engine.compile left right) := by
  cases op with
  | equal | notEqual => exact pure _
  | less | greater | lessEqual | greaterEqual => exact (lift _).bind fun _ => pure _
  | «matches» => exact matchPattern hproperty _ left right
  | notMatches => exact (matchPattern hproperty _ left right).bind fun _ => pure _
  | member => exact lift _
  | notMember => exact (lift _).bind fun _ => pure _
  | and | or => exact throw _

end

mutual

theorem evalWith (hproperty : Memory.Transparent engine.compile property) (event : Event) :
    ∀ e : Expr, Agrees property (e.evalWith (Memory.fetch engine.compile) event)
      (e.evalWith (m := Id) engine.compile event)
  | .float _ => pure _
  | .integer _ => pure _
  | .string _ => pure _
  | .boolean _ => pure _
  | .null => pure _
  | .pointer _ => pure _
  | .list items => by
    rw [Expr.evalWith, Expr.evalWith]
    exact (evalItemsWith hproperty event items).bind fun _ => pure _
  | .not operand => by
    rw [Expr.evalWith, Expr.evalWith]
    exact (evalWith hproperty event operand).bind fun v => (lift _).bind fun b => pure _
  | .binary op left right => by
    have hleft := evalWith hproperty event left
    have hright := evalWith hproperty event right
    cases op with
    | and =>
      rw [Expr.evalWith, Expr.evalWith]
      refine hleft.bind fun l => (lift _).bind fun b => ?_
      cases b with
      | true => exact hright.bind fun r => (lift _).bind fun b => pure _
      | false => exact pure _
    | or =>
      rw [Expr.evalWith, Expr.evalWith]
      refine hleft.bind fun l => (lift _).bind fun b => ?_
      cases b with
      | true => exact pure _
      | false => exact hright.bind fun r => (lift _).bind fun b => pure _
    | _ =>
      exact hleft.bind fun l => hright.bind fun r => (apply hproperty _ l r).bind fun b => pure _

theorem evalItemsWith (hproperty : Memory.Transparent engine.compile property) (event : Event) :
    ∀ items : List Expr,
      Agrees property (Expr.evalItemsWith (Memory.fetch engine.compile) event items)
        (Expr.evalItemsWith (m := Id) engine.compile event items)
  | [] => pure _
  | item :: rest => by
    rw [Expr.evalItemsWith, Expr.evalItemsWith]
    exact (evalWith hproperty event item).bind fun v =>
      (evalItemsWith hproperty event rest).bind fun vs => pure _

end

end Agrees

namespace Evaluator

def Faithful {engine : PatternEngine} (ev : Evaluator engine) : Prop :=
  ev.patterns.Faithful engine.compile

variable {engine : PatternEngine}

theorem faithful_new : (new : Evaluator engine).Faithful := Memory.faithful_nil

variable {ev : Evaluator engine} (h : ev.Faithful) (e : Expr) (event : Event)

include h

theorem evaluate_eq : (ev.evaluate e event).1 = e.eval engine event :=
  (Agrees.evalWith Memory.transparent_faithful event e ev.patterns h).1

theorem Faithful.evaluate : (ev.evaluate e event).2.Faithful :=
  (Agrees.evalWith Memory.transparent_faithful event e ev.patterns h).2

theorem evaluateConditional_eq : (ev.evaluateConditional e event).1 = e.holds engine event := by
  show ((ev.evaluate e event).1 >>= Value.condition) = _
  rw [evaluate_eq h e event]
  rfl

theorem Faithful.evaluateConditional : (ev.evaluateConditional e event).2.Faithful :=
  Faithful.evaluate h e event

theorem length_evaluate_le (hlength : ev.patterns.length ≤ memoryLimit) :
    (ev.evaluate e event).2.patterns.length ≤ memoryLimit :=
  (Agrees.evalWith Memory.transparent_bounded event e ev.patterns ⟨h, hlength⟩).2.2

end Evaluator
end EventRouting
