import EventRouting.Proofs.Value.Equality
import EventRouting.Proofs.Value.Fields
import Mathlib.Data.List.Perm.Subperm

set_option autoImplicit false

namespace EventRouting

namespace Fields

variable {α : Type}

theorem get?_of_mem {key : String} {value : α} {fields : List (String × α)}
    (h : Ascending fields) (hmem : (key, value) ∈ fields) : get? key fields = some value := by
  induction fields with
  | nil => cases hmem
  | cons field rest ih =>
    obtain ⟨k, v⟩ := field
    obtain ⟨hfirst, hrest⟩ := List.pairwise_cons.1 h
    rcases List.mem_cons.1 hmem with heq | hmem
    · cases heq
      simp [get?]
    · have hne : k ≠ key := fun heq => String.lt_irrefl _ (heq ▸ hfirst _ hmem)
      rw [get?, if_neg hne, ih hrest hmem]

theorem keys_eq_of_subset {fs gs : List (String × α)} (hf : Ascending fs) (hg : Ascending gs)
    (hlength : fs.length = gs.length) (h : fs.map (·.1) ⊆ gs.map (·.1)) :
    fs.map (·.1) = gs.map (·.1) := by
  have hperm : (fs.map (·.1)).Perm (gs.map (·.1)) :=
    (List.subperm_of_subset hf.nodup h).perm_of_length_le (by simp [hlength])
  have hantisymm : ∀ k l : String, k ∈ fs.map (·.1) → l ∈ gs.map (·.1) → k < l → l < k → k = l :=
    fun _ _ _ _ hlt hgt => absurd (String.lt_trans hlt hgt) (String.lt_irrefl _)
  exact hperm.eq_of_pairwise hantisymm (List.pairwise_map.2 hf) (List.pairwise_map.2 hg)

end Fields

namespace Value

mutual

def containsNaN : Value → Bool
  | .float x => x.isNaN
  | .list items => anyContainsNaN items
  | .object fields => fieldsContainNaN fields
  | _ => false

def anyContainsNaN : List Value → Bool
  | [] => false
  | item :: rest => containsNaN item || anyContainsNaN rest

def fieldsContainNaN : List (String × Value) → Bool
  | [] => false
  | (_, value) :: rest => containsNaN value || fieldsContainNaN rest

end

mutual

theorem Alike.containsNaN_left {a b : Value} : Alike a b → a.containsNaN = false
  | .null => rfl
  | .boolean _ => rfl
  | .string _ => rfl
  | .number (a := a) ha _ => by
    cases a with
    | float x =>
      have hnan : ¬x.isNaN = true := by
        intro hnan
        rw [quantity?, Binary64.quantity?_eq_none_iff.2 hnan] at ha
        cases ha
      exact Bool.eq_false_iff.2 hnan
    | integer n => rfl
    | _ => cases ha
  | .list items => items.containsNaN_left
  | .object fields => fields.containsNaN_left

theorem AlikeItems.containsNaN_left {xs ys : List Value} :
    AlikeItems xs ys → anyContainsNaN xs = false
  | .nil => rfl
  | .cons first rest => by
    rw [anyContainsNaN, first.containsNaN_left, rest.containsNaN_left]
    rfl

theorem AlikeFields.containsNaN_left {fs gs : List (String × Value)} :
    AlikeFields fs gs → fieldsContainNaN fs = false
  | .nil => rfl
  | .cons first rest => by
    rw [fieldsContainNaN, first.containsNaN_left, rest.containsNaN_left]
    rfl

end

mutual

theorem alike_self : ∀ {v : Value}, v.containsNaN = false → Alike v v
  | .null, _ => .null
  | .boolean b, _ => .boolean b
  | .string s, _ => .string s
  | .integer _, _ => .number rfl rfl
  | .float x, h => by
    cases hquantity : x.quantity? with
    | none => exact absurd (Binary64.quantity?_eq_none_iff.1 hquantity) (Bool.eq_false_iff.1 h)
    | some q => exact .number hquantity hquantity
  | .list _, h => .list (alikeItems_self h)
  | .object _, h => .object (alikeFields_self h)

theorem alikeItems_self : ∀ {items : List Value}, anyContainsNaN items = false →
    AlikeItems items items
  | [], _ => .nil
  | _ :: _, h => by
    rw [anyContainsNaN, Bool.or_eq_false_iff] at h
    exact .cons (alike_self h.1) (alikeItems_self h.2)

theorem alikeFields_self : ∀ {fields : List (String × Value)}, fieldsContainNaN fields = false →
    AlikeFields fields fields
  | [], _ => .nil
  | (_, _) :: _, h => by
    rw [fieldsContainNaN, Bool.or_eq_false_iff] at h
    exact .cons (alike_self h.1) (alikeFields_self h.2)

end

theorem alike_self_iff {v : Value} : Alike v v ↔ v.containsNaN = false :=
  ⟨Alike.containsNaN_left, alike_self⟩

/-- Each field of the one object has an equal one under its key in the other. -/
def FoundIn (fs gs : List (String × Value)) : Prop :=
  ∀ key v, (key, v) ∈ fs → ∃ w, Fields.get? key gs = some w ∧ v.equal w = true

theorem AlikeFields.length_eq {fs gs : List (String × Value)} (h : AlikeFields fs gs) :
    fs.length = gs.length := by
  induction fs generalizing gs with
  | nil =>
    cases h
    rfl
  | cons field fs ih =>
    cases h with
    | cons _ rest => rw [List.length_cons, List.length_cons, ih rest]

theorem AlikeFields.foundIn {fs gs : List (String × Value)} (h : AlikeFields fs gs)
    (hf : Fields.Ascending fs) : FoundIn fs gs := by
  intro key v hmem
  have hlookup := h.get? key
  rw [Fields.get?_of_mem hf hmem] at hlookup
  generalize hw : Fields.get? key gs = found at hlookup
  cases hlookup with
  | some halike => exact ⟨_, rfl, halike.equal_eq⟩

theorem FoundIn.keys_subset {fs gs : List (String × Value)} (h : FoundIn fs gs) :
    fs.map (·.1) ⊆ gs.map (·.1) := by
  intro key hkey
  obtain ⟨⟨_, v⟩, hmem, rfl⟩ := List.mem_map.1 hkey
  obtain ⟨w, hw, -⟩ := h _ v hmem
  exact List.mem_map_of_mem (f := (·.1)) (Fields.mem_of_get? hw)

theorem FoundIn.alike {fs gs : List (String × Value)} (h : FoundIn fs gs)
    (hg : Fields.Ascending gs) (hkeys : fs.map (·.1) = gs.map (·.1)) : AlikeFields fs gs := by
  induction fs generalizing gs with
  | nil =>
    obtain rfl : gs = [] := List.map_eq_nil_iff.1 hkeys.symm
    exact .nil
  | cons field fs ih =>
    obtain ⟨k, v⟩ := field
    obtain ⟨⟨l, w⟩, rest, rfl, hkey, hrest⟩ := List.map_eq_cons_iff.1 hkeys.symm
    obtain rfl : l = k := hkey
    obtain ⟨hfirst, hascending⟩ := List.pairwise_cons.1 hg
    have hhead : v.equal w = true := by
      obtain ⟨w', hw', hequal⟩ := h l v (List.mem_cons_self ..)
      rw [Fields.get?_of_mem hg (List.mem_cons_self ..)] at hw'
      cases hw'
      exact hequal
    have htail : FoundIn fs rest := by
      intro key u hmem
      obtain ⟨w', hw', hequal⟩ := h key u (List.mem_cons_of_mem _ hmem)
      have hkey : key ∈ rest.map (·.1) := hrest ▸ List.mem_map_of_mem (f := (·.1)) hmem
      obtain ⟨other, hother, rfl⟩ := List.mem_map.1 hkey
      have hne : l ≠ other.1 := fun heq => String.lt_irrefl _ (heq ▸ hfirst other hother)
      rw [Fields.get?, if_neg hne] at hw'
      exact ⟨w', hw', hequal⟩
    exact .cons (equal_iff_alike.1 hhead) (ih htail hascending hrest.symm)

theorem equalByKey_iff {fs gs : List (String × Value)} :
    equalByKey fs gs = true ↔ fs.length = gs.length ∧ FoundIn fs gs := by
  simp only [equalByKey, Bool.and_eq_true, decide_eq_true_eq, List.all_eq_true, Prod.forall,
    Option.any_eq_true, FoundIn]

theorem equal_object_eq {fs gs : List (String × Value)} (hf : Fields.Ascending fs)
    (hg : Fields.Ascending gs) : (Value.object fs).equal (.object gs) = equalByKey fs gs := by
  rw [Bool.eq_iff_iff, equal_iff_alike, equalByKey_iff]
  constructor
  · intro h
    cases h with
    | object fields => exact ⟨fields.length_eq, fields.foundIn hf⟩
    | number ha _ => cases ha
  · rintro ⟨hlength, hfound⟩
    exact .object (hfound.alike hg (Fields.keys_eq_of_subset hf hg hlength hfound.keys_subset))

/-- Equality is symmetric and transitive, and reflexive on the values without NaN and on no
others. -/
theorem equal_partial_equivalence :
    (∀ a b : Value, a.equal b = true → b.equal a = true) ∧
    (∀ a b c : Value, a.equal b = true → b.equal c = true → a.equal c = true) ∧
    (∀ v : Value, v.equal v = true ↔ v.containsNaN = false) ∧
    ∀ fs gs : List (String × Value), Fields.Ascending fs → Fields.Ascending gs →
      (Value.object fs).equal (.object gs) = equalByKey fs gs := by
  refine ⟨fun a b h => ?_, fun a b c hab hbc => ?_, fun v => ?_,
    fun fs gs hf hg => equal_object_eq hf hg⟩
  · exact (equal_iff_alike.1 h).symm.equal_eq
  · exact ((equal_iff_alike.1 hab).trans (equal_iff_alike.1 hbc)).equal_eq
  · exact equal_iff_alike.trans alike_self_iff

theorem equal_partial_equivalence_mixed :
    let fs := [("a", integer 9007199254740992), ("b", .list [.float .zero])]
    let gs := [("a", float (.ofInt 9007199254740992)), ("b", .list [.integer 0])]
    let hs := [("a", integer 9007199254740992), ("b", .list [.float (.finite true .zero)])]
    ((object fs).equal (.object gs) = true ∧ (object gs).equal (.object fs) = true) ∧
    ((object gs).equal (.object hs) = true ∧ (object fs).equal (.object hs) = true) ∧
    (Fields.Ascending fs ∧ Fields.Ascending gs ∧ equalByKey fs gs = true) := by
  intro fs gs hs
  have hfg : (object fs).equal (.object gs) = true := by decide +kernel
  have hgh : (object gs).equal (.object hs) = true := by decide +kernel
  have hkeys : "a" < "b" := by decide
  have hf : Fields.Ascending fs := List.pairwise_pair.2 hkeys
  have hg : Fields.Ascending gs := List.pairwise_pair.2 hkeys
  exact ⟨⟨hfg, equal_partial_equivalence.1 _ _ hfg⟩,
    ⟨hgh, equal_partial_equivalence.2.1 _ _ _ hfg hgh⟩,
    hf, hg, (equal_partial_equivalence.2.2.2 fs gs hf hg).symm.trans hfg⟩

end Value
end EventRouting
