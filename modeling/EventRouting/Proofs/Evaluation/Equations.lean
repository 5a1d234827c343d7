import EventRouting.Evaluation.Evaluate
import EventRouting.Proofs.Fallible

set_option autoImplicit false

namespace EventRouting

theorem Fallible.run_bind {ε α β : Type} (x : ExceptT ε Id α) (f : α → ExceptT ε Id β) :
    (x >>= f) = (Except.bind x f : Except ε β) := by
  cases x <;> rfl

def PatternEngine.search (engine : PatternEngine) (pattern text : String) :
    Except EvalError Bool :=
  match engine.compile pattern with
  | .ok compiled => .ok (engine.isMatch compiled text)
  | .error message => .error (.patternCompilation pattern message)

namespace Operator

open Fallible

/-- What an operator answers for two values. -/
def answer (engine : PatternEngine) (op : Operator) (left right : Value) :
    Except EvalError Bool :=
  op.apply (m := Id) engine.compile left right

def judge? : Operator → Option (Ordering → Bool)
  | .less => some Ordering.isLT
  | .greater => some Ordering.isGT
  | .lessEqual => some Ordering.isLE
  | .greaterEqual => some Ordering.isGE
  | _ => none

def matchAnswer (engine : PatternEngine) (op : Operator) (left right : Value) :
    Except EvalError Bool :=
  match left.toString?, right.toString? with
  | some text, some pattern => engine.search pattern text
  | _, _ => .error (.typeCoercion (.matching op left.typeName right.typeName))

variable {engine : PatternEngine} (left right : Value)

theorem matchPattern_eq (op : Operator) :
    matchPattern (m := Id) engine.compile op left right = op.matchAnswer engine left right := by
  unfold matchPattern matchAnswer
  cases left <;> cases right <;> rfl

theorem answer_equal : equal.answer engine left right = .ok (left.equal right) := rfl

theorem answer_notEqual : notEqual.answer engine left right = .ok (!left.equal right) := rfl

theorem answer_comparison {op : Operator} {judge : Ordering → Bool} (h : op.judge? = some judge) :
    op.answer engine left right = (left.order op right).map judge := by
  cases op <;> cases h <;> exact run_bind (left.order _ right) _

theorem answer_matches :
    Operator.matches.answer engine left right = Operator.matches.matchAnswer engine left right :=
  matchPattern_eq left right .matches

theorem answer_notMatches :
    notMatches.answer engine left right = (notMatches.matchAnswer engine left right).map (!·) := by
  rw [← matchPattern_eq]
  exact run_bind (matchPattern (m := Id) engine.compile .notMatches left right) _

theorem answer_member : member.answer engine left right = left.isIn .member right := rfl

theorem answer_notMember :
    notMember.answer engine left right = (left.isIn .notMember right).map (!·) :=
  run_bind (left.isIn .notMember right) _

theorem answer_and :
    Operator.and.answer engine left right = .error (.unsupportedOperation .and) := rfl

theorem answer_or : Operator.or.answer engine left right = .error (.unsupportedOperation .or) := rfl

end Operator

namespace Expr

open Fallible

def evalItems (engine : PatternEngine) (event : Event) (items : List Expr) :
    Except EvalError (List Value) :=
  evalItemsWith (m := Id) engine.compile event items

variable {engine : PatternEngine} (event : Event)

theorem eval_float (x : Binary64) : (float x).eval engine event = .ok (.float x) := rfl

theorem eval_integer (n : Int64) : (integer n).eval engine event = .ok (.integer n) := rfl

theorem eval_string (s : String) : (string s).eval engine event = .ok (.string s) := rfl

theorem eval_boolean (b : Bool) : (boolean b).eval engine event = .ok (.boolean b) := rfl

theorem eval_null : null.eval engine event = .ok .null := rfl

theorem eval_pointer (p : Pointer) :
    (pointer p).eval engine event = .ok ((event.get? p).getD .null) := rfl

theorem eval_list (items : List Expr) :
    (list items).eval engine event = (evalItems engine event items).map .list :=
  run_bind (evalItemsWith (m := Id) engine.compile event items) _

theorem eval_not (operand : Expr) :
    (Expr.not operand).eval engine event = do
      let b ← (← operand.eval engine event).requireBool "not"
      return .boolean !b := by
  refine (run_bind (operand.eval engine event) _).trans (congrArg _ (funext fun v => ?_))
  exact run_bind (v.requireBool "not") _

theorem eval_and (left right : Expr) :
    (binary .and left right).eval engine event = do
      let b ← (← left.eval engine event).requireBool "and"
      if b then return .boolean (← (← right.eval engine event).requireBool "and")
      else return .boolean false := by
  refine (run_bind (left.eval engine event) _).trans (congrArg _ (funext fun l => ?_))
  refine (run_bind (l.requireBool "and") _).trans (congrArg _ (funext fun b => ?_))
  cases b with
  | true =>
    refine (run_bind (right.eval engine event) _).trans (congrArg _ (funext fun r => ?_))
    exact run_bind (r.requireBool "and") _
  | false => rfl

theorem eval_or (left right : Expr) :
    (binary .or left right).eval engine event = do
      let b ← (← left.eval engine event).requireBool "or"
      if b then return .boolean true
      else return .boolean (← (← right.eval engine event).requireBool "or") := by
  refine (run_bind (left.eval engine event) _).trans (congrArg _ (funext fun l => ?_))
  refine (run_bind (l.requireBool "or") _).trans (congrArg _ (funext fun b => ?_))
  cases b with
  | true => rfl
  | false =>
    refine (run_bind (right.eval engine event) _).trans (congrArg _ (funext fun r => ?_))
    exact run_bind (r.requireBool "or") _

theorem eval_binary {op : Operator} (hand : op ≠ .and) (hor : op ≠ .or) (left right : Expr) :
    (binary op left right).eval engine event = do
      let l ← left.eval engine event
      let r ← right.eval engine event
      return .boolean (← op.answer engine l r) := by
  have hoperands : (binary op left right).eval engine event =
      (left.evalWith (m := Id) engine.compile event >>= fun l =>
        right.evalWith engine.compile event >>= fun r =>
          op.apply engine.compile l r >>= fun b => pure (.boolean b)) := by
    cases op with
    | and => exact absurd rfl hand
    | or => exact absurd rfl hor
    | _ => rfl
  rw [hoperands]
  refine (run_bind (left.eval engine event) _).trans (congrArg _ (funext fun l => ?_))
  refine (run_bind (right.eval engine event) _).trans (congrArg _ (funext fun r => ?_))
  exact run_bind (op.answer engine l r) _

theorem evalItems_nil : evalItems engine event [] = .ok [] := rfl

theorem evalItems_cons (item : Expr) (rest : List Expr) :
    evalItems engine event (item :: rest) = do
      let first ← item.eval engine event
      return first :: (← evalItems engine event rest) := by
  refine (run_bind (item.eval engine event) _).trans (congrArg _ (funext fun first => ?_))
  exact run_bind (evalItems engine event rest) _

end Expr
end EventRouting
