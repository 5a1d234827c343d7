import EventRouting.Evaluation.Session
import EventRouting.Proofs.Evaluation.Memory
import EventRouting.Proofs.Fallible
import EventRouting.Proofs.Occurrences

set_option autoImplicit false

namespace EventRouting

namespace Memory

variable {α ε : Type} {compute : String → Except ε α} {memory : Memory α} {texts : List String}

/-- The texts that give a result, each once, in the order in which they first occur. -/
def computable (compute : String → Except ε α) (texts : List String) : List String :=
  (texts.filter fun text => (compute text).isOk).eraseDups

theorem computable_concat_ok {text : String} {a : α} (h : compute text = .ok a)
    (texts : List String) :
    computable compute (texts ++ [text]) =
      if text ∈ computable compute texts then computable compute texts
      else computable compute texts ++ [text] := by
  have hfilter : [text].filter (fun text => (compute text).isOk) = [text] :=
    List.filter_cons_of_pos (Fallible.isOk_iff.2 ⟨a, h⟩)
  rw [computable, List.filter_append, hfilter, Occurrences.eraseDups_concat]
  simp only [computable, List.mem_eraseDups]

theorem computable_concat_error {text : String} {e : ε} (h : compute text = .error e)
    (texts : List String) :
    computable compute (texts ++ [text]) = computable compute texts := by
  have hfilter : [text].filter (fun text => (compute text).isOk) = [] :=
    List.filter_cons_of_neg (by simp [Fallible.isOk_iff, h])
  rw [computable, List.filter_append, hfilter, List.append_nil, computable]

theorem mem_keys_iff {text : String} :
    text ∈ memory.map (·.1) ↔ ∃ a, memory.lookup text = some a := by
  rw [← Option.isSome_iff_exists, List.lookup_isSome_iff]
  simp

/-- A memory after some texts were looked up in it: the first of them that gave a result are
remembered, the latest in front. -/
structure Follows (compute : String → Except ε α) (texts : List String) (memory : Memory α) :
    Prop where
  faithful : Faithful compute memory
  keys : memory.map (·.1) = ((computable compute texts).take memoryLimit).reverse

theorem follows_nil : Follows compute [] [] := ⟨faithful_nil, rfl⟩

namespace Follows

variable (h : Follows compute texts memory)

include h

theorem length_eq : memory.length = min memoryLimit (computable compute texts).length := by
  have hlength := congrArg List.length h.keys
  rwa [List.length_map, List.length_reverse, List.length_take] at hlength

theorem mem_computable {text : String} (hkey : text ∈ memory.map (·.1)) :
    text ∈ computable compute texts := by
  rw [h.keys, List.mem_reverse] at hkey
  exact List.mem_of_mem_take hkey

theorem keys_remember {text : String} {a : α} (ha : compute text = .ok a)
    (hnew : text ∉ memory.map (·.1)) :
    (memory.remember text a).map (·.1) =
      ((computable compute (texts ++ [text])).take memoryLimit).reverse := by
  have hlength := h.length_eq
  unfold Memory.remember
  split
  · -- with room left all of the texts are remembered, so this one is new among them
    rename_i hroom
    have hall : (computable compute texts).take memoryLimit = computable compute texts :=
      List.take_of_length_le (by omega)
    have hfresh : text ∉ computable compute texts := by
      rwa [h.keys, hall, List.mem_reverse] at hnew
    have hfits : (computable compute texts ++ [text]).length ≤ memoryLimit := by
      rw [List.length_append, List.length_singleton]
      omega
    rw [computable_concat_ok ha, if_neg hfresh, List.take_of_length_le hfits,
      List.reverse_append, List.map_cons, h.keys, hall]
    rfl
  · rename_i hfull
    rw [h.keys, computable_concat_ok ha]
    split
    · rfl
    · rw [List.take_append_of_le_length (by omega)]

theorem fetch (text : String) :
    Follows compute (texts ++ [text]) (fetch compute text memory).2 where
  faithful := h.faithful.fetch text
  keys := by
    unfold Memory.fetch
    split
    · rename_i a hlookup
      have hseen := h.mem_computable (mem_keys_iff.2 ⟨a, hlookup⟩)
      rw [computable_concat_ok (h.faithful text a hlookup), if_pos hseen, h.keys]
    · rename_i hlookup
      split
      · rename_i a ha
        have hnew : text ∉ memory.map (·.1) := by
          rw [mem_keys_iff, hlookup]
          rintro ⟨b, ⟨⟩⟩
        exact h.keys_remember ha hnew
      · rename_i e he
        rw [computable_concat_error he, h.keys]

end Follows

end Memory

namespace Evaluator

structure Sound {engine : PatternEngine} (ev : Evaluator engine) : Prop where
  faithful : ev.Faithful
  bounded : ev.patterns.length ≤ memoryLimit

theorem sound_new {engine : PatternEngine} : (new : Evaluator engine).Sound :=
  ⟨faithful_new, Nat.zero_le _⟩

/-- Sound evaluators, used in this way, answer as a function of event and expression does, and
stay sound. -/
def Answers (engine : PatternEngine) {α : Type}
    (how : Evaluator engine → Expr → Event → Except EvalError α × Evaluator engine)
    (answer : Event → Expr → Except EvalError α) : Prop :=
  ∀ ev : Evaluator engine, ev.Sound → ∀ e event,
    (how ev e event).1 = answer event e ∧ (how ev e event).2.Sound

variable {engine : PatternEngine}

theorem evaluate_answers : Answers engine evaluate (Expr.eval engine) := fun _ h e event =>
  ⟨evaluate_eq h.faithful e event, h.faithful.evaluate e event,
    length_evaluate_le h.faithful e event h.bounded⟩

theorem evaluateConditional_answers :
    Answers engine evaluateConditional (Expr.holds engine) := fun ev h e event =>
  ⟨evaluateConditional_eq h.faithful e event, (evaluate_answers ev h e event).2⟩

end Evaluator

namespace Session

inductive Call
  | compile (text : String)
  | evaluate (text : String) (event : Event)
  | evaluateValue (text : String) (event : Event)

inductive Answer
  | statement (result : Except CompileError Statement)
  | verdict (result : Except StatementError Bool)
  | value (result : Except StatementError Value)

def Call.text : Call → String
  | .compile text => text
  | .evaluate text _ => text
  | .evaluateValue text _ => text

variable {engine : PatternEngine}

def call (s : Session engine) : Call → Answer × Session engine
  | .compile text => (s.compile text).map .statement id
  | .evaluate text event => (s.evaluate text event).map .verdict id
  | .evaluateValue text event => (s.evaluateValue text event).map .value id

def after (s : Session engine) (calls : List Call) : Session engine :=
  calls.foldl (fun s c => (s.call c).2) s

/-- The answers to some calls, one after the other, each with the session behind it. -/
def trace (s : Session engine) : List Call → List (Answer × Session engine)
  | [] => []
  | c :: rest => s.call c :: (s.call c).2.trace rest

theorem getElem?_trace (s : Session engine) (calls : List Call) (i : Nat) :
    (s.trace calls)[i]? = calls[i]?.map (s.after (calls.take i)).call := by
  induction calls generalizing s i with
  | nil => rfl
  | cons c rest ih =>
    cases i with
    | zero => rfl
    | succ i => exact ih (s.call c).2 i

def answerTo {α : Type} (answer : Event → Expr → Except EvalError α) (text : String)
    (event : Event) : Except StatementError α :=
  match Statement.compile text with
  | .error e => .error (.compile e)
  | .ok statement => (answer event statement.expr).mapError .eval

def Call.answer (engine : PatternEngine) : Call → Answer
  | .compile text => .statement (Statement.compile text)
  | .evaluate text event => .verdict (answerTo (Expr.holds engine) text event)
  | .evaluateValue text event => .value (answerTo (Expr.eval engine) text event)

structure Follows (texts : List String) (s : Session engine) : Prop where
  evaluator : s.evaluator.Sound
  statements : s.statements.Follows Statement.compile texts

theorem follows_new : Follows [] (new : Session engine) := ⟨Evaluator.sound_new, Memory.follows_nil⟩

namespace Follows

variable {texts : List String} {s : Session engine} (h : Follows texts s)

include h

theorem compile (text : String) :
    (s.compile text).1 = Statement.compile text ∧ Follows (texts ++ [text]) (s.compile text).2 :=
  ⟨Memory.fetch_eq h.statements.faithful text, h.evaluator, h.statements.fetch text⟩

theorem run {α : Type}
    {how : Evaluator engine → Expr → Event → Except EvalError α × Evaluator engine}
    {answer : Event → Expr → Except EvalError α} (hhow : Evaluator.Answers engine how answer)
    (text : String) (event : Event) :
    (s.run how text event).1 = answerTo answer text event ∧
      Follows (texts ++ [text]) (s.run how text event).2 := by
  obtain ⟨hcompile, hfollows⟩ := h.compile text
  unfold Session.run answerTo
  rw [← hcompile]
  generalize s.compile text = compiled at hfollows
  obtain ⟨result, s'⟩ := compiled
  cases result with
  | error e => exact ⟨rfl, hfollows⟩
  | ok statement =>
    obtain ⟨hanswer, hsound⟩ := hhow s'.evaluator hfollows.evaluator statement.expr event
    exact ⟨congrArg (Except.mapError StatementError.eval) hanswer, hsound, hfollows.statements⟩

theorem call (c : Call) :
    (s.call c).1 = c.answer engine ∧ Follows (texts ++ [c.text]) (s.call c).2 := by
  cases c with
  | compile text =>
    obtain ⟨hanswer, hfollows⟩ := h.compile text
    exact ⟨congrArg Answer.statement hanswer, hfollows⟩
  | evaluate text event =>
    obtain ⟨hanswer, hfollows⟩ := h.run Evaluator.evaluateConditional_answers text event
    exact ⟨congrArg Answer.verdict hanswer, hfollows⟩
  | evaluateValue text event =>
    obtain ⟨hanswer, hfollows⟩ := h.run Evaluator.evaluate_answers text event
    exact ⟨congrArg Answer.value hanswer, hfollows⟩

theorem after (calls : List Call) : Follows (texts ++ calls.map Call.text) (s.after calls) := by
  induction calls generalizing texts s with
  | nil =>
    rw [List.map_nil, List.append_nil]
    exact h
  | cons c rest ih =>
    have hrest := ih (h.call c).2
    rwa [List.append_assoc] at hrest

end Follows

theorem cachedStatements_eq {texts : List String} {s : Session engine} (h : Follows texts s) :
    s.cachedStatements = min memoryLimit (Memory.computable Statement.compile texts).length :=
  h.statements.length_eq

/-- Each of any calls on one session is answered as by a new session. Behind it the session
remembers as many statements as fit of the distinct texts so far that compile, and no more
patterns than fit. -/
theorem trace_as_new (engine : PatternEngine) (calls : List Call) (i : Fin calls.length) :
    let fresh : Session engine := new
    ∃ s, (fresh.trace calls)[i.val]? = some ((fresh.call calls[i]).1, s) ∧
      s.cachedStatements = min memoryLimit
        (Memory.computable Statement.compile ((calls.take (i + 1)).map Call.text)).length ∧
      s.evaluator.patterns.length ≤ memoryLimit := by
  intro fresh
  have hbefore : Follows ((calls.take i).map Call.text) (fresh.after (calls.take i)) :=
    follows_new.after (calls.take i)
  obtain ⟨hanswer, hfollows⟩ := hbefore.call calls[i]
  have htexts : (calls.take (i + 1)).map Call.text =
      (calls.take i).map Call.text ++ [calls[i].text] := by
    rw [List.take_succ_eq_append_getElem i.isLt, List.map_append]
    rfl
  refine ⟨((fresh.after (calls.take i)).call calls[i]).2, ?_, ?_, hfollows.evaluator.bounded⟩
  · rw [getElem?_trace, List.getElem?_eq_getElem i.isLt, (follows_new.call calls[i]).1, ← hanswer]
    rfl
  · rw [htexts]
    exact cachedStatements_eq hfollows

end Session
end EventRouting
