import EventRouting.Event
import EventRouting.Proofs.Value.Fields

set_option autoImplicit false

/-!
# Reading an event after a field was set

Setting a field walks down through objects and builds those that are missing, so the laws are
stated of values first: `putAt` sets a value below whatever stands at a path, and `through` is what
it meets there. The main statement says what every pointer reads after a field was set: below the
field the new value, above it objects, and beside it what was there before, unless a list on the
common path had to give way.
-/
namespace EventRouting.Event

/-- A value in the place of `old`, with `value` set at a path below it. -/
def putAt (value : Value) (path : List String) (old : Option Value) : Value :=
  match path with
  | [] => value
  | _ :: _ => .object (putFields value path (fieldsOf old))

section

variable (value : Value) (segment : String) (path : List String)

theorem putFields_cons (fields : List (String × Value)) :
    putFields value (segment :: path) fields =
      Fields.insert segment (putAt value path (Fields.get? segment fields)) fields := by
  cases path <;> rfl

theorem putAt_cons (old : Option Value) :
    putAt value (segment :: path) old = .object (Fields.insert segment
      (putAt value path (Fields.get? segment (fieldsOf old))) (fieldsOf old)) :=
  congrArg Value.object (putFields_cons value segment path (fieldsOf old))

theorem walk_cons (old : Value) :
    walk old (segment :: path) = (child? old segment).bind fun child => walk child path :=
  List.foldlM_cons

theorem walk_append (rest : List String) (old : Value) :
    walk old (path ++ rest) = (walk old path).bind fun v => walk v rest :=
  List.foldlM_append

theorem child?_putAt (other : String) (old : Option Value) :
    child? (putAt value (segment :: path) old) other =
      if segment = other then some (putAt value path (Fields.get? segment (fieldsOf old)))
      else Fields.get? other (fieldsOf old) := by
  rw [putAt_cons]
  exact Fields.get?_insert segment other _ _

end

/-- What stands at a path that is followed through objects only. -/
def through (old : Option Value) (path : List String) : Option Value :=
  path.foldl (fun old segment => Fields.get? segment (fieldsOf old)) old

theorem through_none (path : List String) : through none path = none := by
  induction path with
  | nil => rfl
  | cons segment path ih => exact ih

/-- On the way down a set value is found below objects, and at the end of the way the rest of the
path is set below what stood there. -/
theorem walk_putAt (value : Value) (front rest : List String) (old : Option Value) :
    walk (putAt value (front ++ rest) old) front = some (putAt value rest (through old front)) := by
  induction front generalizing old with
  | nil => rfl
  | cons segment front ih =>
    rw [List.cons_append, walk_cons, child?_putAt, if_pos rfl]
    exact ih (Fields.get? segment (fieldsOf old))

theorem walk_putAt_append (value : Value) (front rest behind : List String) (old : Option Value) :
    walk (putAt value (front ++ rest) old) (front ++ behind) =
      walk (putAt value rest (through old front)) behind := by
  rw [walk_append, walk_putAt]
  rfl

theorem walk_putAt_beside {segment other : String} (h : segment ≠ other) (value : Value)
    (path behind : List String) (old : Option Value) :
    walk (putAt value (segment :: path) old) (other :: behind) =
      (Fields.get? other (fieldsOf old)).bind fun v => walk v behind := by
  rw [walk_cons, child?_putAt, if_neg h]

def MeetsList (value : Value) (path : List String) : Prop :=
  ∃ front items, front <+: path ∧ walk value front = some (.list items)

theorem meetsList_cons {value child : Value} {segment : String} {path : List String}
    (hchild : child? value segment = some child) (h : MeetsList child path) :
    MeetsList value (segment :: path) := by
  obtain ⟨front, items, hfront, hlist⟩ := h
  refine ⟨segment :: front, items, List.cons_prefix_cons.2 ⟨rfl, hfront⟩, ?_⟩
  rw [walk_cons, hchild]
  exact hlist

theorem ne_list {value : Value} {path : List String} (h : ¬MeetsList value path)
    (items : List Value) : value ≠ .list items := by
  rintro rfl
  exact h ⟨[], items, List.nil_prefix, rfl⟩

theorem child?_eq {value : Value} (h : ∀ items, value ≠ .list items) (segment : String) :
    child? value segment = Fields.get? segment (fieldsOf (some value)) := by
  cases value with
  | list items => exact absurd rfl (h items)
  | _ => rfl

theorem get?_through {path : List String} {value : Value} (h : ¬MeetsList value path)
    (other : String) :
    Fields.get? other (fieldsOf (through (some value) path)) =
      (walk value path).bind fun v => child? v other := by
  induction path generalizing value with
  | nil => exact (child?_eq (ne_list h) other).symm
  | cons segment path ih =>
    have hstep := child?_eq (ne_list h) segment
    rw [walk_cons, hstep]
    change Fields.get? other (fieldsOf (through (Fields.get? segment (fieldsOf (some value))) path))
      = _
    cases hchild : Fields.get? segment (fieldsOf (some value)) with
    | none =>
      rw [through_none]
      rfl
    | some child => exact ih fun hlist => h (meetsList_cons (hstep.trans hchild) hlist)

theorem get?_through_of_meetsList {path : List String} {value : Value} (h : MeetsList value path)
    (other : String) : Fields.get? other (fieldsOf (through (some value) path)) = none := by
  obtain ⟨front, items, hfront, hlist⟩ := h
  induction front generalizing value path with
  | nil =>
    cases hlist
    cases path with
    | nil => rfl
    | cons segment path =>
      change Fields.get? other (fieldsOf (through none path)) = none
      rw [through_none]
      rfl
  | cons segment front ih =>
    obtain ⟨behind, rfl⟩ := hfront
    rw [walk_cons] at hlist
    obtain ⟨child, hchild, hbelow⟩ := Option.bind_eq_some_iff.1 hlist
    change Fields.get? other
      (fieldsOf (through (Fields.get? segment (fieldsOf (some value))) (front ++ behind))) = none
    cases value with
    | object fields =>
      have hget : Fields.get? segment (fieldsOf (some (.object fields))) = some child := hchild
      rw [hget]
      exact ih (List.prefix_append front behind) hbelow
    | list _ =>
      change Fields.get? other (fieldsOf (through none (front ++ behind))) = none
      rw [through_none]
      rfl
    | _ => cases hchild

theorem get?_eq_walk (e : Event) {path : List String} (h : path ≠ []) :
    e.get? ⟨path⟩ = walk e.toValue path := by
  obtain ⟨segment, rest, rfl⟩ := List.exists_cons_of_ne_nil h
  rw [walk_cons]
  rfl

theorem toValue_put (e : Event) {p : Pointer} (h : p.segments ≠ []) (value : Value) :
    (e.put p value).toValue = putAt value p.segments (some e.toValue) := by
  obtain ⟨segment, rest, hp⟩ := List.exists_cons_of_ne_nil h
  rw [put, hp]
  rfl

theorem get?_put_eq_walk (e : Event) {p q : Pointer} (hp : p.segments ≠ []) (hq : q.segments ≠ [])
    (value : Value) :
    (e.put p value).get? q = walk (putAt value p.segments (some e.toValue)) q.segments := by
  rw [← toValue_put e hp]
  exact get?_eq_walk _ hq

theorem put_nil (e : Event) (value : Value) : e.put ⟨[]⟩ value = e := rfl

/-- A list is addressed on the way along a path, its end included. -/
def CrossesList (e : Event) (path : List String) : Prop :=
  ∃ front items, front ≠ [] ∧ front <+: path ∧ e.get? ⟨front⟩ = some (.list items)

theorem crossesList_iff (e : Event) (path : List String) :
    e.CrossesList path ↔ MeetsList e.toValue path := by
  constructor
  · rintro ⟨front, items, hne, hfront, hlist⟩
    exact ⟨front, items, hfront, (get?_eq_walk e hne).symm.trans hlist⟩
  · rintro ⟨front, items, hfront, hlist⟩
    have hne : front ≠ [] := by
      rintro rfl
      cases hlist
    exact ⟨front, items, hne, hfront, (get?_eq_walk e hne).trans hlist⟩

/-- After a field was set, a pointer at or below the field reads in the new value; one above it
reads an object; one that branches off beside it reads what it read before, but nothing if a list
is addressed on the common path, which gave way. Without a segment nothing is set. -/
theorem get?_put (e : Event) (value : Value) :
    e.put ⟨[]⟩ value = e ∧
    ∀ p : Pointer, p.segments ≠ [] →
      (e.put p value).get? p = some value ∧
      (∀ (q : Pointer) (rest : List String), q.segments = p.segments ++ rest →
        (e.put p value).get? q = walk value rest) ∧
      (∀ q : Pointer, q.segments ≠ [] → q.segments <+: p.segments → q ≠ p →
        ∃ fields, (e.put p value).get? q = some (.object fields)) ∧
      ∀ (q : Pointer) (common ps qs : List String) (s t : String),
        p.segments = common ++ s :: ps → q.segments = common ++ t :: qs → s ≠ t →
        (¬e.CrossesList common → (e.put p value).get? q = e.get? q) ∧
        (e.CrossesList common → (e.put p value).get? q = none) := by
  refine ⟨put_nil e value, fun p hp => ?_⟩
  have hread : ∀ q : Pointer, q.segments ≠ [] →
      (e.put p value).get? q = walk (putAt value p.segments (some e.toValue)) q.segments :=
    fun q hq => get?_put_eq_walk e hp hq value
  have hbelow : ∀ (q : Pointer) (rest : List String), q.segments = p.segments ++ rest →
      (e.put p value).get? q = walk value rest := by
    intro q rest hq
    have hset := walk_putAt_append value p.segments [] rest (some e.toValue)
    rw [List.append_nil] at hset
    rw [hread q (by simp [hq, hp]), hq]
    exact hset
  refine ⟨hbelow p [] (List.append_nil _).symm, hbelow, ?above, ?beside⟩
  case above =>
    intro q hq hprefix hne
    obtain ⟨rest, hrest⟩ := hprefix
    cases rest with
    | nil =>
      rw [List.append_nil] at hrest
      exact absurd (congrArg Pointer.mk hrest) hne
    | cons segment rest =>
      rw [hread q hq, ← hrest, walk_putAt, putAt_cons]
      exact ⟨_, rfl⟩
  case beside =>
    intro q common ps qs s t hps hqs hst
    have hset : (e.put p value).get? q =
        (Fields.get? t (fieldsOf (through (some e.toValue) common))).bind fun v => walk v qs := by
      rw [hread q (by simp [hqs]), hps, hqs, walk_putAt_append, walk_putAt_beside hst]
    rw [hset, crossesList_iff]
    constructor
    · intro hmeets
      have hbefore : e.get? q = walk e.toValue q.segments := get?_eq_walk e (by simp [hqs])
      rw [hbefore, hqs, walk_append, get?_through hmeets, Option.bind_assoc]
      rfl
    · intro hmeets
      rw [get?_through_of_meetsList hmeets]
      rfl

theorem get?_put_list :
    let e : Event := ⟨[("a", .object [("b", .list [.integer 1]), ("c", .boolean true)])]⟩
    let p : Pointer := ⟨["a", "b", "0"]⟩
    p.segments ≠ [] ∧ e.CrossesList ["a", "b"] ∧ ¬e.CrossesList ["a"] ∧
      (e.put p .null).get? p = some .null ∧
      (∃ fields, (e.put p .null).get? ⟨["a", "b"]⟩ = some (.object fields)) ∧
      e.get? ⟨["a", "b", "00"]⟩ = some (.integer 1) ∧
      (e.put p .null).get? ⟨["a", "b", "00"]⟩ = none ∧
      (e.put p .null).get? ⟨["a", "c"]⟩ = some (.boolean true) := by
  intro e p
  have hp : p.segments ≠ [] := by simp [p]
  have hlist : e.CrossesList ["a", "b"] :=
    ⟨["a", "b"], [.integer 1], by simp, List.prefix_rfl, rfl⟩
  have hobject : ¬e.CrossesList ["a"] := by
    rintro ⟨front, items, hne, hfront, hget⟩
    obtain ⟨rest, rfl, hrest⟩ := (List.prefix_cons_iff.1 hfront).resolve_left hne
    obtain rfl : rest = [] := List.prefix_nil.1 hrest
    cases hget
  obtain ⟨hself, -, habove, hbeside⟩ := (get?_put e .null).2 p hp
  refine ⟨hp, hlist, hobject, hself, ?_, rfl, ?_, ?_⟩
  · exact habove ⟨["a", "b"]⟩ (by simp) ⟨["0"], rfl⟩ (by simp [p])
  · exact (hbeside ⟨["a", "b", "00"]⟩ ["a", "b"] [] [] "0" "00" rfl rfl (by decide)).2 hlist
  · exact (hbeside ⟨["a", "c"]⟩ ["a"] ["0"] [] "b" "c" rfl rfl (by decide)).1 hobject

end EventRouting.Event
