import EventRouting.Proofs.Decimal.Integers
import EventRouting.Proofs.Decimal.Scanning
import EventRouting.Value.Json

set_option autoImplicit false

namespace EventRouting

namespace Value

mutual

/-- The value with `f x` in the place of each float `x` in it. -/
def mapFloats (f : Binary64 → Value) : Value → Value
  | .null => .null
  | .boolean b => .boolean b
  | .integer n => .integer n
  | .float x => f x
  | .string s => .string s
  | .list items => .list (mapFloatsItems f items)
  | .object fields => .object (mapFloatsFields f fields)

def mapFloatsItems (f : Binary64 → Value) : List Value → List Value
  | [] => []
  | item :: rest => mapFloats f item :: mapFloatsItems f rest

def mapFloatsFields (f : Binary64 → Value) : List (String × Value) → List (String × Value)
  | [] => []
  | (key, value) :: rest => (key, mapFloats f value) :: mapFloatsFields f rest

end

mutual

def floats : Value → List Binary64
  | .float x => [x]
  | .list items => floatsOfItems items
  | .object fields => floatsOfFields fields
  | _ => []

def floatsOfItems : List Value → List Binary64
  | [] => []
  | item :: rest => floats item ++ floatsOfItems rest

def floatsOfFields : List (String × Value) → List Binary64
  | [] => []
  | (_, value) :: rest => floats value ++ floatsOfFields rest

end

section

variable {f : Binary64 → Value}

mutual

theorem mapFloats_eq_self_iff : ∀ {v : Value}, v.mapFloats f = v ↔ ∀ x ∈ v.floats, f x = .float x
  | .null => by simp [mapFloats, floats]
  | .boolean _ => by simp [mapFloats, floats]
  | .integer _ => by simp [mapFloats, floats]
  | .float _ => by simp [mapFloats, floats]
  | .string _ => by simp [mapFloats, floats]
  | .list _ => by
    rw [mapFloats, floats, list.injEq]
    exact mapFloatsItems_eq_self_iff
  | .object _ => by
    rw [mapFloats, floats, object.injEq]
    exact mapFloatsFields_eq_self_iff

theorem mapFloatsItems_eq_self_iff : ∀ {items : List Value},
    mapFloatsItems f items = items ↔ ∀ x ∈ floatsOfItems items, f x = .float x
  | [] => by simp [mapFloatsItems, floatsOfItems]
  | _ :: _ => by
    rw [mapFloatsItems, floatsOfItems, List.cons.injEq, List.forall_mem_append,
      mapFloats_eq_self_iff, mapFloatsItems_eq_self_iff]

theorem mapFloatsFields_eq_self_iff : ∀ {fields : List (String × Value)},
    mapFloatsFields f fields = fields ↔ ∀ x ∈ floatsOfFields fields, f x = .float x
  | [] => by simp [mapFloatsFields, floatsOfFields]
  | (_, _) :: _ => by
    rw [mapFloatsFields, floatsOfFields, List.cons.injEq, Prod.mk.injEq, List.forall_mem_append,
      mapFloats_eq_self_iff, mapFloatsFields_eq_self_iff, and_iff_right rfl]

end

end

/-- What a float comes back from JSON as. -/
def ofFinite (x : Binary64) : Value := if x.isFinite then .float x else .null

theorem ofFinite_eq_float_iff {x : Binary64} : ofFinite x = .float x ↔ x.isFinite = true := by
  unfold ofFinite
  split <;> simp_all

mutual

theorem ofJson_toJson : ∀ v : Value, ofJson v.toJson = v.mapFloats ofFinite
  | .null => rfl
  | .boolean _ => rfl
  | .integer n => by rw [toJson, ofJson, Int64.ofInt?_toInt, mapFloats]
  | .float .nan => rfl
  | .float (.infinite _) => rfl
  | .float (.finite _ _) => rfl
  | .string _ => rfl
  | .list items => congrArg Value.list (ofJsonItems_toJsonItems items)
  | .object fields => congrArg Value.object (ofJsonFields_toJsonFields fields)

theorem ofJsonItems_toJsonItems : ∀ items : List Value,
    ofJsonItems (toJsonItems items) = mapFloatsItems ofFinite items
  | [] => rfl
  | item :: rest => by
    rw [toJsonItems, ofJsonItems, mapFloatsItems, ofJson_toJson item, ofJsonItems_toJsonItems rest]

theorem ofJsonFields_toJsonFields : ∀ fields : List (String × Value),
    ofJsonFields (toJsonFields fields) = mapFloatsFields ofFinite fields
  | [] => rfl
  | (_, value) :: rest => by
    rw [toJsonFields, ofJsonFields, mapFloatsFields, ofJson_toJson value,
      ofJsonFields_toJsonFields rest]

end

end Value

namespace JsonNumber

def isUnsignedOnly : JsonNumber → Bool
  | .integer n _ => 2 ^ 63 ≤ n
  | .float _ _ => false

theorem toNat_lt_of_inRange {n : Int} (h : JsonIntegerRange n) : n.toNat < 2 ^ 64 := by
  have := h.2
  omega

/-- What a number comes back from a value as: an integer that 64 bits with a sign do not hold
becomes the float nearest to it. -/
def ofSigned : JsonNumber → JsonNumber
  | .integer n inRange =>
    if n < 2 ^ 63 then .integer n inRange
    else .float false (.ofNat n.toNat (toNat_lt_of_inRange inRange))
  | .float negative magnitude => .float negative magnitude

theorem ofSigned_eq_self_iff {n : JsonNumber} : n.ofSigned = n ↔ n.isUnsignedOnly = false := by
  cases n with
  | integer n inRange =>
    by_cases hn : n < 2 ^ 63
    · have hunsigned : ¬2 ^ 63 ≤ n := Int.not_le.2 hn
      simp only [ofSigned, if_pos hn, isUnsignedOnly, decide_eq_false hunsigned]
    · have hunsigned : 2 ^ 63 ≤ n := Int.not_lt.1 hn
      simp only [ofSigned, if_neg hn, isUnsignedOnly, decide_eq_true hunsigned, reduceCtorEq]
  | float negative magnitude => exact iff_of_true rfl rfl

end JsonNumber

namespace Json

mutual

def mapNumbers (f : JsonNumber → JsonNumber) : Json → Json
  | .null => .null
  | .boolean b => .boolean b
  | .number n => .number (f n)
  | .string s => .string s
  | .array items => .array (mapNumbersItems f items)
  | .object fields => .object (mapNumbersFields f fields)

def mapNumbersItems (f : JsonNumber → JsonNumber) : List Json → List Json
  | [] => []
  | item :: rest => mapNumbers f item :: mapNumbersItems f rest

def mapNumbersFields (f : JsonNumber → JsonNumber) : List (String × Json) → List (String × Json)
  | [] => []
  | (key, value) :: rest => (key, mapNumbers f value) :: mapNumbersFields f rest

end

mutual

def numbers : Json → List JsonNumber
  | .number n => [n]
  | .array items => numbersOfItems items
  | .object fields => numbersOfFields fields
  | _ => []

def numbersOfItems : List Json → List JsonNumber
  | [] => []
  | item :: rest => numbers item ++ numbersOfItems rest

def numbersOfFields : List (String × Json) → List JsonNumber
  | [] => []
  | (_, value) :: rest => numbers value ++ numbersOfFields rest

end

section

variable {f : JsonNumber → JsonNumber}

mutual

theorem mapNumbers_eq_self_iff : ∀ {j : Json}, j.mapNumbers f = j ↔ ∀ n ∈ j.numbers, f n = n
  | .null => by simp [mapNumbers, numbers]
  | .boolean _ => by simp [mapNumbers, numbers]
  | .number _ => by simp [mapNumbers, numbers]
  | .string _ => by simp [mapNumbers, numbers]
  | .array _ => by
    rw [mapNumbers, numbers, array.injEq]
    exact mapNumbersItems_eq_self_iff
  | .object _ => by
    rw [mapNumbers, numbers, object.injEq]
    exact mapNumbersFields_eq_self_iff

theorem mapNumbersItems_eq_self_iff : ∀ {items : List Json},
    mapNumbersItems f items = items ↔ ∀ n ∈ numbersOfItems items, f n = n
  | [] => by simp [mapNumbersItems, numbersOfItems]
  | _ :: _ => by
    rw [mapNumbersItems, numbersOfItems, List.cons.injEq, List.forall_mem_append,
      mapNumbers_eq_self_iff, mapNumbersItems_eq_self_iff]

theorem mapNumbersFields_eq_self_iff : ∀ {fields : List (String × Json)},
    mapNumbersFields f fields = fields ↔ ∀ n ∈ numbersOfFields fields, f n = n
  | [] => by simp [mapNumbersFields, numbersOfFields]
  | (_, _) :: _ => by
    rw [mapNumbersFields, numbersOfFields, List.cons.injEq, Prod.mk.injEq,
      List.forall_mem_append, mapNumbers_eq_self_iff, mapNumbersFields_eq_self_iff,
      and_iff_right rfl]

end

end

end Json

namespace Value

theorem toJson_ofJson_number (n : JsonNumber) :
    (ofJson (.number n)).toJson = .number n.ofSigned := by
  cases n with
  | float negative magnitude => rfl
  | integer n inRange =>
    rw [ofJson, JsonNumber.ofSigned]
    by_cases hn : n < 2 ^ 63
    · have hsigned : -2 ^ 63 ≤ n ∧ n < 2 ^ 63 := ⟨inRange.1, hn⟩
      have htoInt : (Int64.ofInt n).toInt = n := Int64.toInt_ofInt_of_le hsigned.1 hsigned.2
      simp only [Int64.ofInt?, if_pos hsigned, if_pos hn, toJson, htoInt]
    · have hunsigned : ¬(-2 ^ 63 ≤ n ∧ n < 2 ^ 63) := fun h => hn h.2
      have hfloat := Binary64.ofInt_ofNat n.toNat (JsonNumber.toNat_lt_of_inRange inRange)
      rw [Int.toNat_of_nonneg (by omega)] at hfloat
      simp only [Int64.ofInt?, if_neg hunsigned, if_neg hn, hfloat, toJson]

mutual

theorem toJson_ofJson : ∀ j : Json, (ofJson j).toJson = j.mapNumbers JsonNumber.ofSigned
  | .null => rfl
  | .boolean _ => rfl
  | .number n => toJson_ofJson_number n
  | .string _ => rfl
  | .array items => congrArg Json.array (toJsonItems_ofJsonItems items)
  | .object fields => congrArg Json.object (toJsonFields_ofJsonFields fields)

theorem toJsonItems_ofJsonItems : ∀ items : List Json,
    toJsonItems (ofJsonItems items) = Json.mapNumbersItems JsonNumber.ofSigned items
  | [] => rfl
  | item :: rest => by
    rw [ofJsonItems, toJsonItems, Json.mapNumbersItems, toJson_ofJson item,
      toJsonItems_ofJsonItems rest]

theorem toJsonFields_ofJsonFields : ∀ fields : List (String × Json),
    toJsonFields (ofJsonFields fields) = Json.mapNumbersFields JsonNumber.ofSigned fields
  | [] => rfl
  | (_, value) :: rest => by
    rw [ofJsonFields, toJsonFields, Json.mapNumbersFields, toJson_ofJson value,
      toJsonFields_ofJsonFields rest]

end

/-- A value comes back from JSON with null for each float that is not finite, and so as itself
exactly if there is none. JSON comes back from a value with a float for each integer from `2 ^ 63`
on, and so as itself exactly if there is none. -/
theorem json_conversions_lossless :
    (∀ v : Value, ofJson v.toJson = v.mapFloats ofFinite) ∧
    (∀ v : Value, ofJson v.toJson = v ↔ ∀ x ∈ v.floats, x.isFinite = true) ∧
    (∀ j : Json, (ofJson j).toJson = j.mapNumbers JsonNumber.ofSigned) ∧
    ∀ j : Json, (ofJson j).toJson = j ↔ ∀ n ∈ j.numbers, n.isUnsignedOnly = false := by
  refine ⟨ofJson_toJson, fun v => ?_, toJson_ofJson, fun j => ?_⟩
  · rw [ofJson_toJson, mapFloats_eq_self_iff]
    simp only [ofFinite_eq_float_iff]
  · rw [toJson_ofJson, Json.mapNumbers_eq_self_iff]
    simp only [JsonNumber.ofSigned_eq_self_iff]

end Value
end EventRouting
