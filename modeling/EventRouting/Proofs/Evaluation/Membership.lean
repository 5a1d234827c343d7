import EventRouting.Proofs.Evaluation.Logic

set_option autoImplicit false

/-!
# Membership as a chain of comparisons

`x in [a, b, c]` evaluates `x` and every item, and then looks for an equal one. The chain
`x == a or x == b or x == c` evaluates items, and `x` with each of them, until one is equal. So the
chain has the answer of the test where that has one. Where the chain finds no equal item, neither
does the test; where it finds one, the test does too, unless an item that the chain never came to
fails. The same holds of `not in` and the chain of `!=` that `and` joins.
-/
namespace EventRouting

namespace Verdict

variable {ε : Type}

/-- Whether one of some verdicts is true. Those behind one that is true or fails do not count. -/
def anyOf : List (Except ε Bool) → Except ε Bool
  | [] => .ok false
  | x :: rest => either x (anyOf rest)

theorem foldl_either (x : Except ε Bool) (rest : List (Except ε Bool)) :
    rest.foldl either x = anyOf (x :: rest) := by
  induction rest generalizing x with
  | nil =>
    cases x with
    | error e => rfl
    | ok b => cases b <;> rfl
  | cons y rest ih => exact (ih (either x y)).trans (either_assoc x y (anyOf rest))

theorem foldl_both_opposite (x : Except ε Bool) (rest : List (Except ε Bool)) :
    (rest.map opposite).foldl both (opposite x) = opposite (rest.foldl either x) := by
  induction rest generalizing x with
  | nil => rfl
  | cons y rest ih => rw [List.map_cons, List.foldl_cons, List.foldl_cons, ← opposite_either, ih]

theorem opposite_eq_ok_iff {x : Except ε Bool} {b : Bool} : opposite x = .ok b ↔ x = .ok !b := by
  cases x with
  | error e => simp [opposite]
  | ok c => cases b <;> cases c <;> simp [opposite]

end Verdict

namespace Expr

open Verdict Fallible

/-- What `condition` makes of each of some items, joined by an operator from left to right. -/
def joined (op : Operator) (condition : Expr → Expr) (first : Expr) (rest : List Expr) : Expr :=
  rest.foldl (fun left item => .binary op left (condition item)) (condition first)

/-- `x == first or x == second or ..` -/
def equalsSome (x first : Expr) (rest : List Expr) : Expr :=
  joined .or (.binary .equal x) first rest

def differsFromAll (x first : Expr) (rest : List Expr) : Expr :=
  joined .and (.binary .notEqual x) first rest

def equals (engine : PatternEngine) (event : Event) (x item : Expr) : Except EvalError Bool := do
  let v ← x.eval engine event
  let w ← item.eval engine event
  return v.equal w

/-- Whether an expression has the value of one of some items, each of which must have one. -/
def isAmong (engine : PatternEngine) (event : Event) (x : Expr) (items : List Expr) :
    Except EvalError Bool := do
  let v ← x.eval engine event
  let values ← evalItems engine event items
  return values.any v.equal

variable {engine : PatternEngine} (event : Event)

section

variable (x : Expr)

theorem eval_equal (item : Expr) :
    (binary .equal x item).eval engine event = (equals engine event x item).map .boolean := by
  rw [eval_binary event (by decide) (by decide), equals]
  cases x.eval engine event with
  | error e => rfl
  | ok v => cases item.eval engine event <;> rfl

theorem eval_notEqual (item : Expr) :
    (binary .notEqual x item).eval engine event =
      (opposite (equals engine event x item)).map .boolean := by
  rw [eval_binary event (by decide) (by decide), equals]
  cases x.eval engine event with
  | error e => rfl
  | ok v => cases item.eval engine event <;> rfl

theorem eval_member (items : List Expr) :
    (binary .member x (.list items)).eval engine event =
      (isAmong engine event x items).map .boolean := by
  rw [eval_binary event (by decide) (by decide), eval_list, isAmong]
  cases x.eval engine event with
  | error e => rfl
  | ok v => cases evalItems engine event items <;> rfl

theorem eval_notMember (items : List Expr) :
    (binary .notMember x (.list items)).eval engine event =
      (opposite (isAmong engine event x items)).map .boolean := by
  rw [eval_binary event (by decide) (by decide), eval_list, isAmong]
  cases x.eval engine event with
  | error e => rfl
  | ok v => cases evalItems engine event items <;> rfl

theorem eval_joined {op : Operator}
    {join : Except EvalError Bool → Except EvalError Bool → Except EvalError Bool}
    (hop : ∀ left right : Expr, (binary op left right).eval engine event =
      (join (left.verdict engine event op.symbol)
        (right.verdict engine event op.symbol)).map .boolean)
    {condition : Expr → Expr} {judge : Expr → Except EvalError Bool}
    (hjudge : ∀ item, (condition item).eval engine event = (judge item).map .boolean)
    (first : Expr) (rest : List Expr) :
    (joined op condition first rest).eval engine event =
      ((rest.map judge).foldl join (judge first)).map .boolean := by
  suffices hleft : ∀ left verdict, left.eval engine event = verdict.map Value.boolean →
      (rest.foldl (fun left item => binary op left (condition item)) left).eval engine event =
        ((rest.map judge).foldl join verdict).map .boolean from hleft _ _ (hjudge first)
  induction rest with
  | nil => exact fun _ _ h => h
  | cons item rest ih =>
    intro left verdict h
    refine ih _ _ ?_
    rw [hop, verdict_of_eval event h, verdict_of_eval event (hjudge item)]

theorem eval_equalsSome (first : Expr) (rest : List Expr) :
    (equalsSome x first rest).eval engine event =
      (anyOf ((first :: rest).map (equals engine event x))).map .boolean := by
  rw [equalsSome, eval_joined event (eval_or_eq event) (eval_equal event x), foldl_either]
  rfl

theorem eval_differsFromAll (first : Expr) (rest : List Expr) :
    (differsFromAll x first rest).eval engine event =
      (opposite (anyOf ((first :: rest).map (equals engine event x)))).map .boolean := by
  have hverdicts : rest.map (fun item => opposite (equals engine event x item)) =
      (rest.map (equals engine event x)).map opposite := List.map_map.symm
  rw [differsFromAll, eval_joined event (eval_and_eq event) (eval_notEqual event x), hverdicts,
    foldl_both_opposite, foldl_either]
  rfl

end

section

variable {event}

theorem exists_of_evalItems_error {items : List Expr} {error : EvalError}
    (h : evalItems engine event items = .error error) :
    ∃ item ∈ items, item.eval engine event = .error error := by
  induction items with
  | nil => cases h
  | cons item rest ih =>
    rw [evalItems_cons] at h
    cases hitem : item.eval engine event with
    | error e =>
      rw [hitem] at h
      cases h
      exact ⟨item, List.mem_cons_self, hitem⟩
    | ok w =>
      rw [hitem, ok_bind] at h
      cases hrest : evalItems engine event rest with
      | error e =>
        rw [hrest] at h
        cases h
        obtain ⟨other, hother, hfails⟩ := ih hrest
        exact ⟨other, List.mem_cons_of_mem _ hother, hfails⟩
      | ok values =>
        rw [hrest] at h
        cases h

variable {x : Expr} {v : Value} (hx : x.eval engine event = .ok v)

include hx

theorem equals_of_eval (item : Expr) :
    equals engine event x item = (item.eval engine event).map v.equal := by
  rw [equals, hx]
  cases item.eval engine event <;> rfl

/-- Where every item has a value, the chain finds an equal one exactly if there is one. -/
theorem anyOf_of_evalItems {items : List Expr} {values : List Value}
    (h : evalItems engine event items = .ok values) :
    anyOf (items.map (equals engine event x)) = .ok (values.any v.equal) := by
  induction items generalizing values with
  | nil =>
    cases h
    rfl
  | cons item rest ih =>
    rw [evalItems_cons] at h
    obtain ⟨w, hw, h⟩ := bind_eq_ok_iff.1 h
    obtain ⟨others, hothers, h⟩ := bind_eq_ok_iff.1 h
    cases h
    rw [List.map_cons, anyOf, equals_of_eval hx, hw, ih hothers, List.any_cons]
    cases hequal : v.equal w <;> simp [either, hequal]

theorem evalItems_of_anyOf_false {items : List Expr}
    (h : anyOf (items.map (equals engine event x)) = .ok false) :
    ∃ values, evalItems engine event items = .ok values := by
  induction items with
  | nil => exact ⟨[], rfl⟩
  | cons item rest ih =>
    rw [List.map_cons, anyOf, equals_of_eval hx] at h
    cases hitem : item.eval engine event with
    | error e =>
      rw [hitem] at h
      cases h
    | ok w =>
      rw [hitem, map_ok] at h
      cases hequal : v.equal w with
      | true =>
        rw [hequal] at h
        cases h
      | false =>
        rw [hequal] at h
        obtain ⟨values, hvalues⟩ := ih h
        exact ⟨w :: values, by rw [evalItems_cons, hitem, ok_bind, hvalues]; rfl⟩

end

section

variable {event} {x : Expr}

theorem anyOf_of_isAmong {items : List Expr} {b : Bool} (h : isAmong engine event x items = .ok b) :
    anyOf (items.map (equals engine event x)) = .ok b := by
  obtain ⟨v, hx, h⟩ := bind_eq_ok_iff.1 h
  obtain ⟨values, hvalues, h⟩ := bind_eq_ok_iff.1 h
  cases h
  exact anyOf_of_evalItems hx hvalues

/-- A chain with an answer says what the test is, or which failure it has. -/
theorem isAmong_of_anyOf {first : Expr} {rest : List Expr} {b : Bool}
    (h : anyOf ((first :: rest).map (equals engine event x)) = .ok b) :
    isAmong engine event x (first :: rest) = .ok b ∨
      b = true ∧ ∃ item ∈ first :: rest, ∃ error, item.eval engine event = .error error ∧
        isAmong engine event x (first :: rest) = .error error := by
  cases hx : x.eval engine event with
  | error e =>
    have hfirst : equals engine event x first = .error e := by rw [equals, hx]; rfl
    rw [List.map_cons, anyOf, hfirst] at h
    cases h
  | ok v =>
    cases hitems : evalItems engine event (first :: rest) with
    | ok values =>
      rw [anyOf_of_evalItems hx hitems] at h
      refine .inl ?_
      rw [isAmong, hx, ok_bind, hitems]
      exact h
    | error error =>
      refine .inr ⟨?_, ?_⟩
      · cases b with
        | true => rfl
        | false =>
          obtain ⟨values, hvalues⟩ := evalItems_of_anyOf_false hx h
          rw [hitems] at hvalues
          cases hvalues
      · obtain ⟨item, hitem, hfails⟩ := exists_of_evalItems_error hitems
        refine ⟨item, hitem, error, hfails, ?_⟩
        rw [isAmong, hx, ok_bind, hitems]
        rfl

end

end Expr

/-- What a test of membership and the chain of its comparisons say of each other, where an evaluator
is asked for values or for verdicts. -/
structure MembershipUnfolds {engine : PatternEngine} (ev : Evaluator engine) (event : Event)
    {α : Type} (how : Evaluator engine → Expr → Event → Except EvalError α × Evaluator engine)
    (answer : Bool → α) (x first : Expr) (rest : List Expr) : Prop where
  member : ∀ b, (how ev (.binary .member x (.list (first :: rest))) event).1 = .ok (answer b) →
    (how ev (.equalsSome x first rest) event).1 = .ok (answer b)
  notMember : ∀ b,
    (how ev (.binary .notMember x (.list (first :: rest))) event).1 = .ok (answer b) →
    (how ev (.differsFromAll x first rest) event).1 = .ok (answer b)
  of_false : (how ev (.equalsSome x first rest) event).1 = .ok (answer false) →
    (how ev (.binary .member x (.list (first :: rest))) event).1 = .ok (answer false)
  of_true : (how ev (.equalsSome x first rest) event).1 = .ok (answer true) →
    (how ev (.binary .member x (.list (first :: rest))) event).1 = .ok (answer true) ∨
      ∃ item ∈ first :: rest, ∃ error, (ev.evaluate item event).1 = .error error ∧
        (how ev (.binary .member x (.list (first :: rest))) event).1 = .error error

namespace Evaluator

open Verdict EventRouting.Expr

variable {engine : PatternEngine}

theorem membershipUnfolds_of_answers {ev : Evaluator engine} (hev : ev.Faithful) {event : Event}
    {α : Type} {how : Evaluator engine → Expr → Event → Except EvalError α × Evaluator engine}
    {answer : Bool → α}
    (hanswer : ∀ b c, answer b = answer c → b = c)
    (hhow : ∀ e (verdict : Except EvalError Bool), e.eval engine event = verdict.map .boolean →
      (how ev e event).1 = verdict.map answer)
    (x first : Expr) (rest : List Expr) :
    MembershipUnfolds ev event how answer x first rest := by
  have hok {verdict : Except EvalError Bool} {b : Bool}
      (h : verdict.map answer = .ok (answer b)) : verdict = .ok b := by
    cases verdict with
    | error e => cases h
    | ok c => rw [hanswer c b (Except.ok.inj h)]
  constructor
  case member =>
    intro b h
    rw [hhow _ _ (eval_member event x _)] at h
    rw [hhow _ _ (eval_equalsSome event x first rest), anyOf_of_isAmong (hok h)]
    rfl
  case notMember =>
    intro b h
    rw [hhow _ _ (eval_notMember event x _)] at h
    have hchain := anyOf_of_isAmong (opposite_eq_ok_iff.1 (hok h))
    rw [hhow _ _ (eval_differsFromAll event x first rest), opposite_eq_ok_iff.2 hchain]
    rfl
  case of_false =>
    intro h
    rw [hhow _ _ (eval_equalsSome event x first rest)] at h
    rcases isAmong_of_anyOf (hok h) with htest | ⟨hfalse, -⟩
    · rw [hhow _ _ (eval_member event x _), htest]
      rfl
    · cases hfalse
  case of_true =>
    intro h
    rw [hhow _ _ (eval_equalsSome event x first rest)] at h
    rw [hhow _ _ (eval_member event x _)]
    rcases isAmong_of_anyOf (hok h) with htest | ⟨-, item, hitem, error, hfails, htest⟩
    · exact .inl (by rw [htest]; rfl)
    · refine .inr ⟨item, hitem, error, ?_, by rw [htest]; rfl⟩
      rw [evaluate_eq hev, hfails]

/-- Membership in a list of items unfolds to comparisons with each of them. A test that has an
answer gives it to the chain of comparisons. A chain that finds no equal item gives its answer to
the test, and one that finds an equal item does so unless another item fails, with whose error the
test then fails. This is so for values and for verdicts, whatever was evaluated before. -/
theorem membership_unfolds (x first : Expr) (rest : List Expr) (event : Event)
    {ev : Evaluator engine} (hev : ev.Faithful) :
    MembershipUnfolds ev event evaluate .boolean x first rest ∧
      MembershipUnfolds ev event evaluateConditional id x first rest := by
  constructor
  · refine membershipUnfolds_of_answers hev (fun _ _ => Value.boolean.inj) (fun e verdict h => ?_)
      x first rest
    rw [evaluate_eq hev, h]
  · refine membershipUnfolds_of_answers hev (fun _ _ => id) (fun e verdict h => ?_) x first rest
    rw [evaluateConditional_eq hev, holds, h]
    cases verdict <;> rfl

theorem membership_unfolds_failing :
    let ev : Evaluator .plain := new
    let event : Event := ⟨[("code", .integer 4)]⟩
    let x := pointer ⟨["code"]⟩
    let four : Binary64 := .finite false ⟨2 ^ 52, 1024, by decide⟩
    let fails := binary .matches (.string "x") (.string "(")
    let isIn (items : List Expr) := binary .member x (.list items)
    let isNotIn (items : List Expr) := binary .notMember x (.list items)
    (ev.Faithful ∧
      (ev.evaluate (isIn [.null, .float four]) event).1 = .ok (.boolean true) ∧
      (ev.evaluate (.equalsSome x .null [.float four]) event).1 = .ok (.boolean true)) ∧
    ((ev.evaluateConditional (isNotIn [.null, .float four]) event).1 = .ok false ∧
      (ev.evaluateConditional (.differsFromAll x .null [.float four]) event).1 = .ok false) ∧
    (ev.evaluate (.equalsSome x (.float four) [fails]) event).1 = .ok (.boolean true) ∧
    ∃ item ∈ [.float four, fails], ∃ error, (ev.evaluate item event).1 = .error error ∧
      (ev.evaluate (isIn [.float four, fails]) event).1 = .error error := by
  intro ev event x four fails isIn isNotIn
  have hnew : ev.Faithful := faithful_new
  have hequal : Value.equal (.integer 4) (.float four) = true := by decide +kernel
  have hamong : isAmong .plain event x [.null, .float four] = .ok true := by
    show Except.ok (false || (Value.equal (.integer 4) (.float four) || false)) = _
    rw [hequal]
    rfl
  have hmember : (ev.evaluate (isIn [.null, .float four]) event).1 = .ok (.boolean true) := by
    rw [evaluate_eq hnew, eval_member, hamong]
    rfl
  have hnotMember :
      (ev.evaluateConditional (isNotIn [.null, .float four]) event).1 = .ok false := by
    rw [evaluateConditional_eq hnew, holds, eval_notMember, hamong]
    rfl
  have hchain : (ev.evaluate (.equalsSome x (.float four) [fails]) event).1 =
      .ok (.boolean true) := by
    have hfirst : equals .plain event x (.float four) = .ok true := congrArg Except.ok hequal
    rw [evaluate_eq hnew, eval_equalsSome, List.map_cons, anyOf, hfirst]
    rfl
  have hfound := membership_unfolds x .null [.float four] event hnew
  have hfails := (membership_unfolds x (.float four) [fails] event hnew).1.of_true hchain
  refine ⟨⟨hnew, hmember, hfound.1.member true hmember⟩,
    ⟨hnotMember, hfound.2.notMember false hnotMember⟩, hchain, hfails.resolve_left ?_⟩
  rintro ⟨⟩

end Evaluator
end EventRouting
