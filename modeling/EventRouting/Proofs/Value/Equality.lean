import EventRouting.Proofs.Decimal.Order
import EventRouting.Value.Compare

set_option autoImplicit false

namespace EventRouting.Value

theorem numeric_cases {a : Value} {q : Quantity} (h : a.quantity? = some q) :
    (∃ n, a = .integer n) ∨ ∃ x, a = .float x := by
  cases a with
  | integer n => exact .inl ⟨n, rfl⟩
  | float x => exact .inr ⟨x, rfl⟩
  | _ => cases h

/-- Numbers are compared by the quantities they stand for, whatever their kinds. -/
theorem compareNumbers?_eq_quantities (a b : Value) :
    compareNumbers? a b = a.quantity?.bind fun p => b.quantity?.map p.compare := by
  cases a with
  | integer m =>
    cases b with
    | integer n => exact congrArg some (Quantity.compare_ofInt m.toInt n.toInt).symm
    | float x => exact Binary64.compareInteger?_eq m x
    | _ => rfl
  | float x =>
    cases b with
    | integer n =>
      rw [compareNumbers?, Binary64.compareInteger?_eq]
      cases hx : x.quantity? <;> simp [quantity?, hx, Quantity.compare_swap]
    | float y => exact Binary64.compare?_eq x y
    | _ => cases hx : x.quantity? <;> simp [compareNumbers?, quantity?, hx]
  | _ => rfl

theorem compareNumbers?_eq_iff {a b : Value} :
    compareNumbers? a b = some .eq ↔ ∃ q, a.quantity? = some q ∧ b.quantity? = some q := by
  rw [compareNumbers?_eq_quantities]
  cases ha : a.quantity? with
  | none => simp
  | some p =>
    cases hb : b.quantity? with
    | none => simp
    | some q =>
      simp only [Option.bind_some, Option.map_some, Option.some.injEq, Quantity.compare_eq_iff,
        exists_eq_left']
      exact eq_comm

mutual

inductive Alike : Value → Value → Prop
  | null : Alike .null .null
  | boolean (b : Bool) : Alike (.boolean b) (.boolean b)
  | string (s : String) : Alike (.string s) (.string s)
  | number {a b : Value} {q : Quantity} :
      a.quantity? = some q → b.quantity? = some q → Alike a b
  | list {xs ys : List Value} : AlikeItems xs ys → Alike (.list xs) (.list ys)
  | object {fs gs : List (String × Value)} : AlikeFields fs gs → Alike (.object fs) (.object gs)

inductive AlikeItems : List Value → List Value → Prop
  | nil : AlikeItems [] []
  | cons {x y : Value} {xs ys : List Value} :
      Alike x y → AlikeItems xs ys → AlikeItems (x :: xs) (y :: ys)

inductive AlikeFields : List (String × Value) → List (String × Value) → Prop
  | nil : AlikeFields [] []
  | cons {key : String} {x y : Value} {fs gs : List (String × Value)} :
      Alike x y → AlikeFields fs gs → AlikeFields ((key, x) :: fs) ((key, y) :: gs)

end

theorem alike_of_equal_all :
    (∀ a b : Value, a.equal b = true → Alike a b) ∧
    (∀ fs gs : List (String × Value), equalFields fs gs = true → AlikeFields fs gs) ∧
    (∀ xs ys : List Value, equalItems xs ys = true → AlikeItems xs ys) := by
  apply Value.equal.mutual_induct
    (fun a b => a.equal b = true → Alike a b)
    (fun fs gs => equalFields fs gs = true → AlikeFields fs gs)
    (fun xs ys => equalItems xs ys = true → AlikeItems xs ys)
  case _ => -- null
    intro _
    exact .null
  case _ => -- truth values
    intro a b h
    obtain rfl : a = b := by simpa [equal] using h
    exact .boolean a
  case _ => -- texts
    intro s t h
    obtain rfl : s = t := by simpa [equal] using h
    exact .string s
  case _ => -- lists
    intro xs ys ih h
    exact .list (ih (by simpa [equal] using h))
  case _ => -- objects
    intro fs gs ih h
    exact .object (ih (by simpa [equal] using h))
  case _ => -- numbers, and values of different types
    intro a b hnull hboolean hstring hlist hobject h
    rw [equal] at h
    · obtain ⟨q, ha, hb⟩ := compareNumbers?_eq_iff.1 (of_decide_eq_true h)
      exact .number ha hb
    all_goals assumption
  case _ => -- no items
    intro _
    exact .nil
  case _ => -- an item in front
    intro x xs y ys ihFirst ihRest h
    rw [equalItems, Bool.and_eq_true] at h
    exact .cons (ihFirst h.1) (ihRest h.2)
  case _ => -- items of one list only
    intro xs ys hnil hcons h
    rw [equalItems] at h
    · cases h
    all_goals assumption
  case _ => -- no fields
    intro _
    exact .nil
  case _ => -- a field in front
    intro k x fs l y gs ihFirst ihRest h
    simp only [equalFields, Bool.and_eq_true, decide_eq_true_eq] at h
    obtain ⟨⟨rfl, hfirst⟩, hrest⟩ := h
    exact .cons (ihFirst hfirst) (ihRest hrest)
  case _ => -- fields of one object only
    intro fs gs hnil hcons h
    rw [equalFields] at h
    · cases h
    all_goals assumption

mutual

theorem Alike.equal_eq {a b : Value} : Alike a b → a.equal b = true
  | .null => by simp [equal]
  | .boolean b => by simp [equal]
  | .string s => by simp [equal]
  | .number ha hb => by
    have hnumbers := compareNumbers?_eq_iff.2 ⟨_, ha, hb⟩
    obtain ⟨n, rfl⟩ | ⟨x, rfl⟩ := numeric_cases ha <;> simp [equal, hnumbers]
  | .list items => by simp [equal, items.equal_eq]
  | .object fields => by simp [equal, fields.equal_eq]

theorem AlikeItems.equal_eq {xs ys : List Value} : AlikeItems xs ys → equalItems xs ys = true
  | .nil => rfl
  | .cons first rest => by simp [equalItems, first.equal_eq, rest.equal_eq]

theorem AlikeFields.equal_eq {fs gs : List (String × Value)} :
    AlikeFields fs gs → equalFields fs gs = true
  | .nil => rfl
  | .cons first rest => by simp [equalFields, first.equal_eq, rest.equal_eq]

end

theorem equal_iff_alike {a b : Value} : a.equal b = true ↔ Alike a b :=
  ⟨alike_of_equal_all.1 a b, Alike.equal_eq⟩

mutual

theorem Alike.symm {a b : Value} : Alike a b → Alike b a
  | .null => .null
  | .boolean b => .boolean b
  | .string s => .string s
  | .number ha hb => .number hb ha
  | .list items => .list items.symm
  | .object fields => .object fields.symm

theorem AlikeItems.symm {xs ys : List Value} : AlikeItems xs ys → AlikeItems ys xs
  | .nil => .nil
  | .cons first rest => .cons first.symm rest.symm

theorem AlikeFields.symm {fs gs : List (String × Value)} : AlikeFields fs gs → AlikeFields gs fs
  | .nil => .nil
  | .cons first rest => .cons first.symm rest.symm

end

theorem Alike.quantity?_eq {a b : Value} (h : Alike a b) : a.quantity? = b.quantity? := by
  cases h with
  | number ha hb => rw [ha, hb]
  | _ => rfl

mutual

theorem Alike.trans {a b c : Value} : Alike a b → Alike b c → Alike a c
  | .null, h => h
  | .boolean _, h => h
  | .string _, h => h
  | .number ha hb, h => .number ha (h.quantity?_eq ▸ hb)
  | .list items, h => by
    cases h with
    | list items' => exact .list (items.trans items')
    | number hb _ => cases hb
  | .object fields, h => by
    cases h with
    | object fields' => exact .object (fields.trans fields')
    | number hb _ => cases hb

theorem AlikeItems.trans {xs ys zs : List Value} :
    AlikeItems xs ys → AlikeItems ys zs → AlikeItems xs zs
  | .nil, h => h
  | .cons first rest, .cons first' rest' => .cons (first.trans first') (rest.trans rest')

theorem AlikeFields.trans {fs gs hs : List (String × Value)} :
    AlikeFields fs gs → AlikeFields gs hs → AlikeFields fs hs
  | .nil, h => h
  | .cons first rest, .cons first' rest' => .cons (first.trans first') (rest.trans rest')

end

theorem AlikeFields.get? (key : String) {fs gs : List (String × Value)}
    (fields : AlikeFields fs gs) : Option.Rel Alike (Fields.get? key fs) (Fields.get? key gs) := by
  induction fs generalizing gs with
  | nil =>
    cases fields
    exact .none
  | cons field fs ih =>
    cases fields with
    | cons first rest =>
      unfold Fields.get?
      split
      · exact .some first
      · exact ih rest

namespace Alike

variable {a b a' b' : Value} (h : Alike a b) (h' : Alike a' b')

include h

theorem toBool?_eq : a.toBool? = b.toBool? := by
  cases h with
  | number ha hb =>
    obtain ⟨m, rfl⟩ | ⟨x, rfl⟩ := numeric_cases ha <;>
      obtain ⟨n, rfl⟩ | ⟨y, rfl⟩ := numeric_cases hb <;> rfl
  | _ => rfl

theorem toString?_eq : a.toString? = b.toString? := by
  cases h with
  | number ha hb =>
    obtain ⟨m, rfl⟩ | ⟨x, rfl⟩ := numeric_cases ha <;>
      obtain ⟨n, rfl⟩ | ⟨y, rfl⟩ := numeric_cases hb <;> rfl
  | _ => rfl

theorem isNumeric_eq : a.isNumeric = b.isNumeric := by
  cases h with
  | number ha hb =>
    obtain ⟨m, rfl⟩ | ⟨x, rfl⟩ := numeric_cases ha <;>
      obtain ⟨n, rfl⟩ | ⟨y, rfl⟩ := numeric_cases hb <;> rfl
  | _ => rfl

include h'

theorem compareNumbers?_eq : compareNumbers? a a' = compareNumbers? b b' := by
  rw [compareNumbers?_eq_quantities, compareNumbers?_eq_quantities, h.quantity?_eq, h'.quantity?_eq]

theorem equal_congr : a.equal a' = b.equal b' := by
  rw [Bool.eq_iff_iff, equal_iff_alike, equal_iff_alike]
  constructor
  · intro heq
    exact (h.symm.trans heq).trans h'
  · intro heq
    exact (h.trans heq).trans h'.symm

end Alike

end EventRouting.Value
