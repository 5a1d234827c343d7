import EventRouting.Proofs.Event.Putting

set_option autoImplicit false

namespace EventRouting

namespace Fields

variable {α : Type}

theorem insert_insert (key : String) (value other : α) (fields : List (String × α)) :
    insert key other (insert key value fields) = insert key other fields := by
  induction fields with
  | nil => simp [insert]
  | cons field rest ih =>
    obtain ⟨k, v⟩ := field
    by_cases hlt : key < k
    · simp [insert, hlt]
    · by_cases heq : key = k
      · subst heq
        simp [insert]
      · simp [insert, hlt, heq, ih]

theorem insert_comm_of_lt {key other : String} (h : key < other) (value value' : α)
    (fields : List (String × α)) :
    insert key value (insert other value' fields) =
      insert other value' (insert key value fields) := by
  have hne : other ≠ key := fun heq => String.lt_irrefl key (heq ▸ h)
  have hnlt : ¬other < key := fun hlt => String.lt_irrefl key (String.lt_trans h hlt)
  induction fields with
  | nil => simp [insert, h, hnlt, hne]
  | cons field rest ih =>
    obtain ⟨k, v⟩ := field
    by_cases hbefore : other < k
    · have hfirst := String.lt_trans h hbefore
      simp [insert, hbefore, hfirst, h, hnlt, hne]
    · by_cases hat : other = k
      · subst hat
        simp [insert, h, hnlt, hne]
      · by_cases hlt : key < k
        · simp [insert, hbefore, hat, hlt, hnlt, hne]
        · by_cases heq : key = k
          · subst heq
            simp [insert, hbefore, hat]
          · simp [insert, hbefore, hat, hlt, heq, ih]

theorem insert_comm {key other : String} (h : key ≠ other) (value value' : α)
    (fields : List (String × α)) :
    insert key value (insert other value' fields) =
      insert other value' (insert key value fields) := by
  by_cases hlt : key < other
  · exact insert_comm_of_lt hlt value value' fields
  · by_cases hgt : other < key
    · exact (insert_comm_of_lt hgt value' value fields).symm
    · exact absurd (String.le_antisymm (String.not_lt.1 hgt) (String.not_lt.1 hlt)) h

end Fields

namespace Event

theorem putAt_putAt_cons (value value' : Value) (segment : String) (path path' : List String)
    (old : Option Value) :
    putAt value' (segment :: path') (some (putAt value (segment :: path) old)) =
      .object (Fields.insert segment
        (putAt value' path' (some (putAt value path (Fields.get? segment (fieldsOf old)))))
        (fieldsOf old)) := by
  rw [putAt_cons, putAt_cons, fieldsOf, Fields.get?_insert, if_pos rfl, Fields.insert_insert]

theorem putAt_covers (value value' : Value) (path rest : List String) (old : Option Value) :
    putAt value' path (some (putAt value (path ++ rest) old)) = putAt value' path old := by
  induction path generalizing old with
  | nil => rfl
  | cons segment path ih => rw [List.cons_append, putAt_putAt_cons, ih, putAt_cons]

theorem putAt_comm_of_ne {segment other : String} (h : segment ≠ other) (value value' : Value)
    (path path' : List String) (old : Option Value) :
    putAt value' (other :: path') (some (putAt value (segment :: path) old)) =
      putAt value (segment :: path) (some (putAt value' (other :: path') old)) := by
  simp only [putAt_cons, fieldsOf, Fields.get?_insert, if_neg h, if_neg h.symm]
  rw [Fields.insert_comm h.symm]

/-- Behind a common path, values set below different segments do not meet. -/
theorem putAt_comm {segment other : String} (h : segment ≠ other) (value value' : Value)
    (common path path' : List String) (old : Option Value) :
    putAt value' (common ++ other :: path')
        (some (putAt value (common ++ segment :: path) old)) =
      putAt value (common ++ segment :: path)
        (some (putAt value' (common ++ other :: path') old)) := by
  induction common generalizing old with
  | nil => exact putAt_comm_of_ne h value value' path path' old
  | cons first common ih =>
    simp only [List.cons_append]
    rw [putAt_putAt_cons, putAt_putAt_cons, ih]

theorem exists_fork {path path' : List String} (h : ¬path <+: path') (h' : ¬path' <+: path) :
    ∃ common s t rest rest', s ≠ t ∧ path = common ++ s :: rest ∧ path' = common ++ t :: rest' := by
  induction path generalizing path' with
  | nil => exact absurd List.nil_prefix h
  | cons s rest ih =>
    cases path' with
    | nil => exact absurd List.nil_prefix h'
    | cons t rest' =>
      by_cases hst : s = t
      · subst hst
        have hrest : ¬rest <+: rest' := fun hle => h (List.cons_prefix_cons.2 ⟨rfl, hle⟩)
        have hrest' : ¬rest' <+: rest := fun hle => h' (List.cons_prefix_cons.2 ⟨rfl, hle⟩)
        obtain ⟨common, a, b, tail, tail', hab, rfl, rfl⟩ := ih hrest hrest'
        exact ⟨s :: common, a, b, tail, tail', hab, rfl, rfl⟩
      · exact ⟨[], s, t, rest, rest', hst, rfl, rfl⟩

theorem toValue_inj {e e' : Event} (h : e.toValue = e'.toValue) : e = e' := by
  cases e
  cases e'
  cases h
  rfl

theorem toValue_put_put (e : Event) {p q : Pointer} (hp : p.segments ≠ []) (hq : q.segments ≠ [])
    (value value' : Value) :
    ((e.put p value).put q value').toValue =
      putAt value' q.segments (some (putAt value p.segments (some e.toValue))) := by
  rw [toValue_put _ hq, toValue_put e hp]

theorem walk_putAt_self (value : Value) (path : List String) (old : Option Value) :
    walk (putAt value path old) path = some value := by
  have hset := walk_putAt value path [] old
  rwa [List.append_nil] at hset

/-- The value that was set last is read back, and the one before it as well unless one of the two
fields is part of the other. -/
theorem get?_put_put (e : Event) {p q : Pointer} (hp : p.segments ≠ []) (hq : q.segments ≠ [])
    (value value' : Value) :
    ((e.put p value).put q value').get? q = some value' ∧
    (¬p.segments <+: q.segments → ¬q.segments <+: p.segments →
      ((e.put p value).put q value').get? p = some value) := by
  rw [get?_put_eq_walk _ hq hq, get?_put_eq_walk _ hq hp, toValue_put e hp]
  refine ⟨walk_putAt_self _ _ _, fun hleft hright => ?_⟩
  obtain ⟨common, s, t, rest, rest', hst, hps, hqs⟩ := exists_fork hleft hright
  rw [hps, hqs, putAt_comm hst]
  exact walk_putAt_self _ _ _

/-- Two fields of which none is part of the other are set in either order with the same event as
the result; a field that is set again, or of which a part was set before, keeps the second value
only. -/
theorem put_put (e : Event) (p q : Pointer) (value value' : Value) (hp : p.segments ≠ [])
    (hq : q.segments ≠ []) :
    (¬p.segments <+: q.segments → ¬q.segments <+: p.segments →
      (e.put p value).put q value' = (e.put q value').put p value) ∧
    (q.segments <+: p.segments → (e.put p value).put q value' = e.put q value') := by
  constructor
  · intro hleft hright
    obtain ⟨common, s, t, rest, rest', hst, hps, hqs⟩ := exists_fork hleft hright
    apply toValue_inj
    rw [toValue_put_put e hp hq, toValue_put_put e hq hp, hps, hqs]
    exact putAt_comm hst value value' common rest rest' (some e.toValue)
  · rintro ⟨rest, hrest⟩
    apply toValue_inj
    rw [toValue_put_put e hp hq, toValue_put e hq, ← hrest]
    exact putAt_covers value value' q.segments rest (some e.toValue)

theorem put_put_list :
    let e : Event := ⟨[("a", .list [.null])]⟩
    let p : Pointer := ⟨["a", "b", "c"]⟩
    let q : Pointer := ⟨["a", "d"]⟩
    let r : Pointer := ⟨["a"]⟩
    p.segments ≠ [] ∧ q.segments ≠ [] ∧ r.segments ≠ [] ∧
      ¬p.segments <+: q.segments ∧ ¬q.segments <+: p.segments ∧ r.segments <+: p.segments ∧
      (e.put p (.boolean true)).put q .null = (e.put q .null).put p (.boolean true) ∧
      (e.put p (.boolean true)).put r .null = e.put r .null := by
  intro e p q r
  have hp : p.segments ≠ [] := by simp [p]
  have hq : q.segments ≠ [] := by simp [q]
  have hr : r.segments ≠ [] := by simp [r]
  have hpq : ¬p.segments <+: q.segments := by decide
  have hqp : ¬q.segments <+: p.segments := by decide
  have hrp : r.segments <+: p.segments := by decide
  exact ⟨hp, hq, hr, hpq, hqp, hrp, (put_put e p q _ _ hp hq).1 hpq hqp,
    (put_put e p r _ _ hp hr).2 hrp⟩

end Event
end EventRouting
