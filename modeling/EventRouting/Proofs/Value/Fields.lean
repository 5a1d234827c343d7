import EventRouting.Value.Basic

set_option autoImplicit false

namespace EventRouting.Fields

variable {α : Type}

theorem get?_insert (key other : String) (value : α) (fields : List (String × α)) :
    get? other (insert key value fields) =
      if key = other then some value else get? other fields := by
  induction fields with
  | nil => simp [insert, get?]
  | cons field rest ih =>
    obtain ⟨k, v⟩ := field
    unfold insert
    split
    · simp [get?]
    · split
      · rename_i _ heq
        subst heq
        by_cases h : key = other <;> simp [get?, h]
      · rename_i _ hne
        simp only [get?, ih]
        by_cases h : k = other
        · subst h
          simp [hne]
        · simp [h]

theorem mem_keys_insert (key other : String) (value : α) (fields : List (String × α)) :
    other ∈ (insert key value fields).map (·.1) ↔ other = key ∨ other ∈ fields.map (·.1) := by
  induction fields with
  | nil => simp [insert]
  | cons field rest ih =>
    obtain ⟨k, v⟩ := field
    unfold insert
    split
    · simp
    · split
      · rename_i _ heq
        simp [heq]
      · simp only [List.map_cons, List.mem_cons, ih]
        exact or_left_comm

theorem mem_of_get? {key : String} {value : α} {fields : List (String × α)}
    (h : get? key fields = some value) : (key, value) ∈ fields := by
  induction fields with
  | nil => cases h
  | cons field rest ih =>
    obtain ⟨k, v⟩ := field
    unfold get? at h
    split at h
    · rename_i heq
      cases h
      exact heq ▸ List.mem_cons_self
    · exact List.mem_cons_of_mem _ (ih h)

theorem Ascending.nodup {fields : List (String × α)} (h : Ascending fields) :
    (fields.map (·.1)).Nodup := by
  refine List.pairwise_map.2 (h.imp fun hlt heq => ?_)
  rw [heq] at hlt
  exact String.lt_irrefl _ hlt

theorem Ascending.insert {fields : List (String × α)} (h : Ascending fields) (key : String)
    (value : α) : Ascending (Fields.insert key value fields) := by
  induction fields with
  | nil => simp [Fields.insert, Ascending]
  | cons field rest ih =>
    obtain ⟨k, v⟩ := field
    obtain ⟨hfirst, hrest⟩ := List.pairwise_cons.1 h
    unfold Fields.insert
    split
    · rename_i hlt
      refine List.pairwise_cons.2 ⟨fun other hother => ?_, h⟩
      rcases List.mem_cons.1 hother with rfl | hother
      · exact hlt
      · exact String.lt_trans hlt (hfirst other hother)
    · split
      · rename_i _ heq
        exact List.pairwise_cons.2 ⟨fun other hother => heq ▸ hfirst other hother, hrest⟩
      · rename_i hnlt hne
        refine List.pairwise_cons.2 ⟨fun other hother => ?_, ih hrest⟩
        have hkey := (mem_keys_insert key other.1 value rest).1 (List.mem_map_of_mem hother)
        rcases hkey with hkey | hkey
        · rw [hkey]
          exact Decidable.byContradiction fun hge =>
            hne (String.le_antisymm (String.not_lt.1 hge) (String.not_lt.1 hnlt))
        · obtain ⟨field, hfield, heq⟩ := List.mem_map.1 hkey
          exact heq ▸ hfirst field hfield

section

variable (pairs fields : List (String × α))

def insertAll : List (String × α) := pairs.foldl (fun fields (k, v) => insert k v fields) fields

theorem insertAll_ascending (h : Ascending fields) : Ascending (insertAll pairs fields) := by
  induction pairs generalizing fields with
  | nil => exact h
  | cons pair pairs ih => exact ih _ (h.insert pair.1 pair.2)

theorem mem_keys_insertAll (key : String) :
    key ∈ (insertAll pairs fields).map (·.1) ↔
      key ∈ pairs.map (·.1) ∨ key ∈ fields.map (·.1) := by
  induction pairs generalizing fields with
  | nil => simp [insertAll]
  | cons pair pairs ih =>
    have hstep := ih (insert pair.1 pair.2 fields)
    rw [mem_keys_insert] at hstep
    rw [List.map_cons, List.mem_cons, or_assoc, or_left_comm]
    exact hstep

theorem get?_insertAll_of_not_mem {key : String} (h : key ∉ pairs.map (·.1)) :
    get? key (insertAll pairs fields) = get? key fields := by
  induction pairs generalizing fields with
  | nil => rfl
  | cons pair pairs ih =>
    simp only [List.map_cons, List.mem_cons, not_or] at h
    have hstep := ih (insert pair.1 pair.2 fields) h.2
    rw [get?_insert, if_neg (Ne.symm h.1)] at hstep
    exact hstep

theorem get?_insertAll {key : String} {value : α} (hnodup : (pairs.map (·.1)).Nodup)
    (h : (key, value) ∈ pairs) : get? key (insertAll pairs fields) = some value := by
  induction pairs generalizing fields with
  | nil => cases h
  | cons pair pairs ih =>
    obtain ⟨hfresh, hnodup⟩ := List.nodup_cons.1 hnodup
    rcases List.mem_cons.1 h with rfl | h
    · have hstep := get?_insertAll_of_not_mem pairs (insert key value fields) hfresh
      rw [get?_insert, if_pos rfl] at hstep
      exact hstep
    · exact ih _ hnodup h

end

variable {pairs : List (String × α)}

theorem ofList_ascending : Ascending (ofList pairs) :=
  insertAll_ascending pairs [] List.Pairwise.nil

theorem mem_keys_ofList (key : String) :
    key ∈ (ofList pairs).map (·.1) ↔ key ∈ pairs.map (·.1) :=
  (mem_keys_insertAll pairs [] key).trans (by simp)

theorem get?_ofList {key : String} {value : α} (hnodup : (pairs.map (·.1)).Nodup)
    (h : (key, value) ∈ pairs) : get? key (ofList pairs) = some value :=
  get?_insertAll pairs [] hnodup h

end EventRouting.Fields
