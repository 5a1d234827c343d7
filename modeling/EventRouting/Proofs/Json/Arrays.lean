import EventRouting.Json.Read
import EventRouting.Proofs.Fallible
import EventRouting.Proofs.Json.Tokens

set_option autoImplicit false

namespace EventRouting.Document

open Fallible

namespace State

def onto (s : State) (base : List Frame) : State := ⟨s.phase, s.stack ++ base⟩

end State

theorem beginValue?_onto {stack : List Frame} {t : JsonToken} {s : State}
    (h : beginValue? stack t = some s) (base : List Frame) :
    beginValue? (stack ++ base) t = some (s.onto base) := by
  cases t <;> cases h <;> rfl

theorem ne_endArray_of_beginValue? {stack : List Frame} {t : JsonToken} {s : State}
    (h : beginValue? stack t = some s) : t ≠ .endArray := by
  rintro rfl
  cases h

theorem step?_firstItem {stack : List Frame} {t : JsonToken} (h : t ≠ .endArray) :
    step? ⟨.firstItem, stack⟩ t = beginValue? stack t := by
  rcases stack with _ | ⟨⟨items⟩ | ⟨members, key⟩, stack⟩ <;> cases t <;>
    first | rfl | exact absurd rfl h

theorem step?_onto {s s' : State} {t : JsonToken} (h : step? s t = some s')
    (base : List Frame) : step? (s.onto base) t = some (s'.onto base) := by
  unfold step? at h
  split at h
  case h_1 => exact beginValue?_onto h base
  case h_3 => exact (step?_firstItem (ne_endArray_of_beginValue? h)).trans (beginValue?_onto h base)
  all_goals first | cases h; rfl | cases h

theorem run_onto {s s' : State} {ts : List JsonToken} (h : ts.foldlM step? s = some s')
    (base : List Frame) : ts.foldlM step? (s.onto base) = some (s'.onto base) := by
  induction ts generalizing s with
  | nil =>
    cases h
    rfl
  | cons t ts ih =>
    rw [List.foldlM_cons, Option.bind_eq_bind, Option.bind_eq_some_iff] at h
    obtain ⟨next, hstep, hrun⟩ := h
    rw [List.foldlM_cons, step?_onto hstep base]
    exact ih hrun

theorem run_cons {s s' : State} {t : JsonToken} {ts : List JsonToken}
    (h : (t :: ts).foldlM step? s = some s') :
    ∃ next, step? s t = some next ∧ ts.foldlM step? next = some s' := by
  rwa [List.foldlM_cons, Option.bind_eq_bind, Option.bind_eq_some_iff] at h

theorem run_of_ofTokens? {ts : List JsonToken} {d : Document} (h : ofTokens? ts = some d) :
    ts.foldlM step? ⟨.value, []⟩ = some ⟨.after d, []⟩ := by
  unfold ofTokens? at h
  split at h
  · rename_i value hrun
    cases h
    exact hrun
  · cases h

theorem ofTokens?_of_run {ts : List JsonToken} {d : Document}
    (h : ts.foldlM step? ⟨.value, []⟩ = some ⟨.after d, []⟩) : ofTokens? ts = some d := by
  rw [ofTokens?, h]

theorem run_item {ts : List JsonToken} {d : Document} (h : ofTokens? ts = some d)
    (stack : List Frame) :
    ts.foldlM step? ⟨.value, stack⟩ = some ⟨.after d, stack⟩ ∧
      ts.foldlM step? ⟨.firstItem, stack⟩ = some ⟨.after d, stack⟩ := by
  have hvalue := run_onto (run_of_ofTokens? h) stack
  refine ⟨hvalue, ?_⟩
  cases ts with
  | nil => cases hvalue
  | cons t ts =>
    obtain ⟨next, hstep, hrun⟩ := run_cons hvalue
    have hbegin : beginValue? stack t = some next := hstep
    rw [List.foldlM_cons, step?_firstItem (ne_endArray_of_beginValue? hbegin), hbegin]
    exact hrun

/-- A run that is inside an array, or has just closed one that nothing is around. -/
def InArray (s : State) : Prop :=
  (∃ items, s.stack.getLast? = some (.array items)) ∨
    s.stack = [] ∧ ∃ items, s.phase = .after (.array items)

section

variable {stack : List Frame} {items : List Document}

theorem getLast?_push (h : stack.getLast? = some (.array items)) (frame : Frame) :
    (frame :: stack).getLast? = some (.array items) := by
  rw [List.getLast?_cons, h]
  rfl

theorem getLast?_pop {frame : Frame} (h : (frame :: stack).getLast? = some (.array items)) :
    stack = [] ∧ frame = .array items ∨ stack.getLast? = some (.array items) := by
  cases stack with
  | nil => exact .inl ⟨rfl, by simpa using h⟩
  | cons below stack => exact .inr (by rwa [List.getLast?_cons_cons] at h)

theorem InArray.begin {t : JsonToken} {s : State} (hlast : stack.getLast? = some (.array items))
    (h : beginValue? stack t = some s) : InArray s := by
  left
  cases t with
  | scalar value =>
    cases h
    exact ⟨items, hlast⟩
  | text pieces =>
    cases h
    exact ⟨items, hlast⟩
  | beginArray =>
    cases h
    exact ⟨items, getLast?_push hlast _⟩
  | beginObject =>
    cases h
    exact ⟨items, hlast⟩
  | _ => cases h

theorem InArray.endArray {frame : Frame} (hlast : (frame :: stack).getLast? = some (.array items))
    (closed : List Document) : InArray ⟨.after (.array closed), stack⟩ := by
  rcases getLast?_pop hlast with ⟨rfl, -⟩ | hlast
  · exact .inr ⟨rfl, closed, rfl⟩
  · exact .inl ⟨items, hlast⟩

theorem InArray.leaveObject {members : List (List JsonPiece × Document)} {key : List JsonPiece}
    (hlast : (.object members key :: stack : List Frame).getLast? = some (.array items))
    (phase : Phase) : InArray ⟨phase, stack⟩ := by
  rcases getLast?_pop hlast with ⟨-, hframe⟩ | hlast
  · cases hframe
  · exact .inl ⟨items, hlast⟩

end

theorem InArray.step {s s' : State} {t : JsonToken} (hs : InArray s) (h : step? s t = some s') :
    InArray s' := by
  rcases hs with ⟨items, hlast⟩ | ⟨hnil, items, hphase⟩
  · unfold step? at h
    split at h
    case h_1 | h_3 => exact .begin hlast h
    case h_2 | h_9 => -- the end of an array
      cases h
      exact .endArray hlast _
    case h_4 | h_5 | h_6 => -- a key, or the end of an object without members
      cases h
      exact .inl ⟨items, hlast⟩
    case h_7 => -- a colon
      cases h
      exact .inl ⟨items, getLast?_push hlast _⟩
    case h_8 outer _ => -- a comma in an array
      cases h
      rcases getLast?_pop hlast with ⟨rfl, -⟩ | hlast
      · exact .inl ⟨_, rfl⟩
      · exact .inl ⟨items, getLast?_push hlast _⟩
    case h_10 | h_11 => -- a comma in an object, or its end
      cases h
      exact .leaveObject hlast _
    case h_12 => cases h
  · obtain ⟨phase, stack⟩ := s
    subst hnil hphase
    cases t <;> cases h

theorem InArray.run {s s' : State} {ts : List JsonToken} (hs : InArray s)
    (h : ts.foldlM step? s = some s') : InArray s' := by
  induction ts generalizing s with
  | nil =>
    cases h
    exact hs
  | cons t ts ih =>
    obtain ⟨next, hstep, hrun⟩ := run_cons h
    exact ih (hs.step hstep) hrun

theorem array_of_beginArray {ts : List JsonToken} {d : Document}
    (h : ofTokens? (.beginArray :: ts) = some d) : ∃ items, d = .array items := by
  obtain ⟨next, hstep, hrun⟩ := run_cons (run_of_ofTokens? h)
  cases hstep
  have hs : InArray ⟨.firstItem, [.array []]⟩ := .inl ⟨[], rfl⟩
  rcases hs.run hrun with ⟨items, hlast⟩ | ⟨-, items, hphase⟩
  · cases hlast
  · cases hphase
    exact ⟨items, rfl⟩

def Writes (cs : List Char) (d : Document) : Prop :=
  ∃ ts, JsonToken.tokens? cs = some ts ∧ ofTokens? ts = some d

theorem ofText?_eq_some {text : String} {d : Document} :
    ofText? text = some d ↔ Writes text.toList d := by
  simp only [ofText?, Option.bind_eq_bind, Option.bind_eq_some_iff, Writes]

def moreItems (texts : List (List Char)) : List Char :=
  texts.flatMap (',' :: ·) ++ [']']

theorem moreItems_cons (text : List Char) (texts : List (List Char)) :
    moreItems (text :: texts) = ',' :: (text ++ moreItems texts) := by
  simp [moreItems]

theorem moreItems_head (texts : List (List Char)) :
    Decimal.Literal.Ends (moreItems texts) ∧
      ∀ c ∈ (moreItems texts).head?, c ≠ '+' ∧ c ≠ '-' := by
  have hhead : ∀ c ∈ (moreItems texts).head?, c = ',' ∨ c = ']' := by
    cases texts with
    | nil => simp [moreItems]
    | cons text texts => simp [moreItems]
  constructor
  · intro c hc
    rcases hhead c hc with rfl | rfl <;> decide
  · intro c hc
    rcases hhead c hc with rfl | rfl <;> decide

theorem run_moreItems {docs : List (List Char × Document)}
    (h : ∀ p ∈ docs, Writes p.1 p.2) (d : Document) (items : List Document) :
    ∃ ts, JsonToken.tokens? (moreItems (docs.map (·.1))) = some ts ∧
      ts.foldlM step? ⟨.after d, [.array items]⟩ =
        some ⟨.after (.array ((d :: items).reverse ++ docs.map (·.2))), []⟩ := by
  induction docs generalizing d items with
  | nil =>
    refine ⟨[.endArray], ?_, by simp [step?]⟩
    have hmore : moreItems (([] : List (List Char × Document)).map (·.1)) = [']'] := rfl
    rw [hmore, JsonToken.tokens?_token (by decide) (t := .endArray) rfl, List.drop_zero,
      JsonToken.tokens?]
    rfl
  | cons p docs ih =>
    obtain ⟨⟨ts, htokens, hdocument⟩, hdocs⟩ := List.forall_mem_cons.1 h
    obtain ⟨more, hmore, hrun⟩ := ih hdocs p.2 (d :: items)
    obtain ⟨hends, hsign⟩ := moreItems_head (docs.map (·.1))
    refine ⟨.comma :: (ts ++ more), ?_, ?_⟩
    · rw [List.map_cons, moreItems_cons, JsonToken.tokens?_token (by decide) (t := .comma) rfl,
        List.drop_zero, JsonToken.tokens?_append hends hsign htokens, hmore]
      rfl
    · have hitem := (run_item hdocument [.array (d :: items)]).1
      rw [List.foldlM_cons]
      change (ts ++ more).foldlM step? ⟨.value, [.array (d :: items)]⟩ = _
      rw [List.foldlM_append, hitem]
      simpa using hrun

def arrayText (texts : List (List Char)) : List Char :=
  '[' :: ([','].intercalate texts ++ [']'])

theorem arrayText_cons (text : List Char) (texts : List (List Char)) :
    arrayText (text :: texts) = '[' :: (text ++ moreItems texts) := by
  induction texts generalizing text with
  | nil => simp [arrayText, moreItems]
  | cons next texts ih =>
    have hnext : [','].intercalate (next :: texts) ++ [']'] = next ++ moreItems texts :=
      (List.cons.inj (ih next)).2
    rw [arrayText, List.intercalate_cons_cons, moreItems_cons, List.append_assoc,
      List.append_assoc, hnext, List.singleton_append]

/-- An array text is the array of what the texts of its items are read as. -/
theorem writes_arrayText {docs : List (List Char × Document)} (h : ∀ p ∈ docs, Writes p.1 p.2) :
    Writes (arrayText (docs.map (·.1))) (.array (docs.map (·.2))) := by
  cases docs with
  | nil =>
    refine ⟨[.beginArray, .endArray], ?_, rfl⟩
    have htext : arrayText (([] : List (List Char × Document)).map (·.1)) = ['[', ']'] := rfl
    rw [htext, JsonToken.tokens?_token (by decide) (t := .beginArray) rfl, List.drop_zero,
      JsonToken.tokens?_token (by decide) (t := .endArray) rfl, List.drop_zero, JsonToken.tokens?]
    rfl
  | cons p docs =>
    obtain ⟨⟨ts, htokens, hdocument⟩, hdocs⟩ := List.forall_mem_cons.1 h
    obtain ⟨more, hmore, hrun⟩ := run_moreItems hdocs p.2 []
    obtain ⟨hends, hsign⟩ := moreItems_head (docs.map (·.1))
    refine ⟨.beginArray :: (ts ++ more), ?_, ?_⟩
    · rw [List.map_cons, arrayText_cons,
        JsonToken.tokens?_token (by decide) (t := .beginArray) rfl, List.drop_zero,
        JsonToken.tokens?_append hends hsign htokens, hmore]
      rfl
    · have hitem := (run_item hdocument [.array []]).2
      refine ofTokens?_of_run ?_
      rw [List.foldlM_cons]
      change (ts ++ more).foldlM step? ⟨.firstItem, [.array []]⟩ = _
      rw [List.foldlM_append, hitem]
      simpa using hrun

mutual

/-- How deep the arrays and objects of a document nest, as they are written. -/
def nesting : Document → Nat
  | .array items => 1 + maxNesting items
  | .object members => 1 + memberNesting members
  | _ => 0

def maxNesting : List Document → Nat
  | [] => 0
  | item :: rest => max (nesting item) (maxNesting rest)

def memberNesting : List (List JsonPiece × Document) → Nat
  | [] => 0
  | (_, value) :: rest => max (nesting value) (memberNesting rest)

end

theorem maxNesting_le_iff {items : List Document} {n : Nat} :
    maxNesting items ≤ n ↔ ∀ d ∈ items, d.nesting ≤ n := by
  induction items with
  | nil => simp [maxNesting]
  | cons d items ih => rw [maxNesting, Nat.max_le, ih, List.forall_mem_cons]

/-- A value where its document's nesting fits in some room, and otherwise the fault of that. -/
def within {α : Type} (nesting room : Nat) (value : α) : Except JsonError α :=
  if nesting ≤ room then .ok value else .error .nestingTooDeep

section

variable {α β : Type} {nesting nesting' room : Nat}

theorem within_bind (a : α) {f : α → Except JsonError β} {b : β}
    (hf : f a = within nesting' room b) :
    (within nesting room a >>= f) = within (max nesting nesting') room b := by
  by_cases h : nesting ≤ room
  · have hmax : max nesting nesting' ≤ room ↔ nesting' ≤ room := by omega
    rw [within, if_pos h, ok_bind, hf]
    simp only [within, hmax]
  · have hmax : ¬ max nesting nesting' ≤ room := by omega
    rw [within, if_neg h, within, if_neg hmax]
    rfl

theorem within_ok (a : α) (f : α → β) :
    (within nesting room a >>= fun a => .ok (f a)) = within nesting room (f a) := by
  unfold within
  split <;> rfl

theorem within_succ (a : α) : within (1 + nesting) (room + 1) a = within nesting room a := by
  have hle : 1 + nesting ≤ room + 1 ↔ nesting ≤ room := by omega
  simp only [within, hle]

end

mutual

/-- A document's value is the same with any room that its nesting fits in. -/
theorem toJson_room :
    ∀ (d : Document) {room : Nat} {j : Json}, d.toJson room = .ok j →
      ∀ room', d.toJson room' = within d.nesting room' j
  | .null, _, _, h, _ | .boolean _, _, _, h, _ | .number _, _, _, h, _
  | .string _, _, _, h, _ => by
    simpa only [toJson, nesting, within, Nat.zero_le, if_true] using h
  | .array items, room, j, h, room' => by
    cases room with
    | zero => cases h
    | succ room =>
      rw [toJson, bind_eq_ok_iff] at h
      obtain ⟨js, hjs, ⟨⟩⟩ := h
      cases room' with
      | zero =>
        rw [toJson, within, nesting, if_neg (by omega)]
      | succ room' =>
        rw [toJson, toJsonItems_room items hjs room', nesting, within_succ]
        exact within_ok js Json.array
  | .object members, room, j, h, room' => by
    cases room with
    | zero => cases h
    | succ room =>
      rw [toJson, bind_eq_ok_iff] at h
      obtain ⟨fields, hfields, ⟨⟩⟩ := h
      cases room' with
      | zero =>
        rw [toJson, within, nesting, if_neg (by omega)]
      | succ room' =>
        rw [toJson, toJsonMembers_room members hfields room', nesting, within_succ]
        exact within_ok fields fun fields => Json.object (Fields.ofList fields)

theorem toJsonItems_room :
    ∀ (items : List Document) {room : Nat} {js : List Json}, toJsonItems room items = .ok js →
      ∀ room', toJsonItems room' items = within (maxNesting items) room' js
  | [], _, _, h, _ => by
    simpa only [toJsonItems, maxNesting, within, Nat.zero_le, if_true] using h
  | item :: rest, room, js, h, room' => by
    rw [toJsonItems, bind_eq_ok_iff] at h
    obtain ⟨j, hj, h⟩ := h
    obtain ⟨more, hmore, ⟨⟩⟩ := bind_eq_ok_iff.1 h
    rw [toJsonItems, toJson_room item hj room', maxNesting]
    refine within_bind j ?_
    rw [toJsonItems_room rest hmore room']
    exact within_ok more (j :: ·)

theorem toJsonMembers_room :
    ∀ (members : List (List JsonPiece × Document)) {room : Nat} {fields : List (String × Json)},
      toJsonMembers room members = .ok fields →
      ∀ room', toJsonMembers room' members = within (memberNesting members) room' fields
  | [], _, _, h, _ => by
    simpa only [toJsonMembers, memberNesting, within, Nat.zero_le, if_true] using h
  | (key, value) :: rest, room, fields, h, room' => by
    rw [toJsonMembers, bind_eq_ok_iff] at h
    obtain ⟨name, hname, h⟩ := h
    obtain ⟨j, hj, h⟩ := bind_eq_ok_iff.1 h
    obtain ⟨more, hmore, ⟨⟩⟩ := bind_eq_ok_iff.1 h
    rw [toJsonMembers, hname, ok_bind, toJson_room value hj room', memberNesting]
    refine within_bind j ?_
    rw [toJsonMembers_room rest hmore room']
    exact within_ok more ((name, j) :: ·)

end

theorem toJsonItems_map {α : Type} {room : Nat} {document : α → Document} {value : α → Json}
    {items : List α} (h : ∀ a ∈ items, (document a).toJson room = .ok (value a)) :
    toJsonItems room (items.map document) = .ok (items.map value) := by
  induction items with
  | nil => rfl
  | cons a items ih =>
    obtain ⟨ha, hitems⟩ := List.forall_mem_cons.1 h
    rw [List.map_cons, toJsonItems, ha, ok_bind, ih hitems]
    rfl

end EventRouting.Document
