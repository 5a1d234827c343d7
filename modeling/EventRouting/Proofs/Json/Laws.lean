import EventRouting.Proofs.Json.Nesting
import EventRouting.Routing.RouteFile

set_option autoImplicit false

namespace EventRouting

open Fallible

def inArray (texts : List String) : String := "[" ++ String.intercalate "," texts ++ "]"

/-- Arrays and objects can nest this deep, the array of the records included. -/
def nestingLimit : Nat := 127

structure JsonReader.Lawful (reader : JsonReader) : Prop where
  /-- A carriage return at the end of a text is blank. -/
  value_return : ∀ text json,
    reader.value (text ++ "\r") = .ok json ↔ reader.value text = .ok json
  /-- Only blanks stand before the bracket that begins an object. -/
  value_object : ∀ text fields, reader.value text = .ok (.object fields) →
    ∃ blanks rest, text.toList = blanks ++ '\x7b' :: rest ∧
      ∀ c ∈ blanks, c ∈ [' ', '\t', '\n', '\r']
  /-- The array of some texts has their values, while there is room for their nesting. -/
  values_inArray : ∀ items : List (String × Json),
    (∀ item ∈ items, reader.value item.1 = .ok item.2) →
    (∀ item ∈ items, 1 + writtenNesting item.1 ≤ nestingLimit) →
      reader.values (inArray (items.map (·.1))) = .ok (items.map (·.2))
  values_tooDeep : ∀ items : List (String × Json),
    (∀ item ∈ items, reader.value item.1 = .ok item.2) →
    (∃ item ∈ items, nestingLimit < 1 + writtenNesting item.1) →
      ∃ message, reader.values (inArray (items.map (·.1))) = .error message

namespace Json

theorem mapError_eq_ok {α ε δ : Type} {x : Except ε α} {f : ε → δ} {a : α} :
    x.mapError f = .ok a ↔ x = .ok a := by
  cases x <;> simp

theorem parse_eq_of_tokens {text text' : String}
    (h : JsonToken.tokens? text.toList = JsonToken.tokens? text'.toList) :
    parse text = parse text' := by
  simp only [parse, Document.parse, Document.ofText?, h]

theorem document_of_parse {text : String} {j : Json} (h : parse text = .ok j) :
    ∃ d, Document.ofText? text = some d ∧ d.toJson maxJsonDepth = .ok j := by
  obtain ⟨d, hparse, hvalue⟩ := bind_eq_ok_iff.1 h
  refine ⟨d, ?_, hvalue⟩
  unfold Document.parse at hparse
  split at hparse
  · rename_i document hdocument
    cases hparse
    exact hdocument
  · cases hparse

theorem parse_eq_toJson {text : String} {d : Document} (h : Document.ofText? text = some d) :
    parse text = d.toJson maxJsonDepth := by
  simp only [parse, Document.parse, h, ok_bind]

theorem toList_inArray (texts : List String) :
    (inArray texts).toList = Document.arrayText (texts.map (·.toList)) := by
  have hopen : "[".toList = ['['] := rfl
  have hcomma : ",".toList = [','] := rfl
  have hclose : "]".toList = [']'] := rfl
  rw [inArray, String.toList_append, String.toList_append, String.toList_intercalate, hopen, hcomma,
    hclose, Document.arrayText]
  rfl

/-- The array of some texts has the array of their values, if all of them leave room for it. -/
theorem parse_inArray {items : List (String × Json)}
    (h : ∀ item ∈ items, parse item.1 = .ok item.2) :
    parse (inArray (items.map (·.1))) =
      if ∀ item ∈ items, 1 + writtenNesting item.1 ≤ nestingLimit then
        .ok (.array (items.map (·.2)))
      else .error .nestingTooDeep := by
  let document (item : String × Json) : Document := (Document.ofText? item.1).getD .null
  have hdocument : ∀ item ∈ items, Document.ofText? item.1 = some (document item) ∧
      (document item).toJson maxJsonDepth = .ok item.2 := by
    intro item hitem
    obtain ⟨d, hd, hvalue⟩ := document_of_parse (h item hitem)
    have heq : document item = d := by simp only [document, hd, Option.getD_some]
    rw [heq]
    exact ⟨hd, hvalue⟩
  have hwritten : ∀ p ∈ items.map fun item => (item.1.toList, document item),
      Document.Writes p.1 p.2 := by
    intro p hp
    obtain ⟨item, hitem, rfl⟩ := List.mem_map.1 hp
    exact Document.ofText?_eq_some.1 (hdocument item hitem).1
  have hwrites := Document.writes_arrayText hwritten
  rw [List.map_map, List.map_map] at hwrites
  have harray : Document.ofText? (inArray (items.map (·.1))) =
      some (.array (items.map document)) := by
    rw [Document.ofText?_eq_some, toList_inArray, List.map_map]
    exact hwrites
  have hvalues := Document.toJsonItems_map fun item hitem => (hdocument item hitem).2
  have hroom := Document.toJsonItems_room _ hvalues (maxJsonDepth - 1)
  have hfits : Document.maxNesting (items.map document) ≤ maxJsonDepth - 1 ↔
      ∀ item ∈ items, 1 + writtenNesting item.1 ≤ nestingLimit := by
    rw [Document.maxNesting_le_iff, List.forall_mem_map]
    refine forall₂_congr fun item hitem => ?_
    rw [Document.writtenNesting_eq (hdocument item hitem).1, maxJsonDepth, nestingLimit]
    omega
  rw [parse_eq_toJson harray]
  change (Document.toJsonItems (maxJsonDepth - 1) (items.map document) >>= fun js =>
    .ok (Json.array js)) = _
  rw [hroom, Document.within_ok, Document.within]
  simp only [hfits]

theorem front_of_object {text : String} {fields : List (String × Json)}
    (h : parse text = .ok (.object fields)) :
    ∃ rest, text.toList.dropWhile JsonToken.isSpace = '\x7b' :: rest := by
  obtain ⟨d, hd, hvalue⟩ := document_of_parse h
  obtain ⟨ts, htokens, hts⟩ := Document.ofText?_eq_some.1 hd
  have hobject : ∃ members, d = .object members := by
    cases d with
    | object members => exact ⟨members, rfl⟩
    | array items =>
      obtain ⟨js, -, hj⟩ := bind_eq_ok_iff.1 hvalue
      cases hj
    | number l =>
      obtain ⟨n, -, hj⟩ := bind_eq_ok_iff.1 hvalue
      cases hj
    | string pieces =>
      obtain ⟨s, -, hj⟩ := bind_eq_ok_iff.1 hvalue
      cases hj
    | null | boolean => cases hvalue
  obtain ⟨members, rfl⟩ := hobject
  obtain ⟨more, rfl⟩ := Document.beginObject_of_object (JsonToken.peak_tokens? htokens 0).1 hts
  obtain ⟨c, behind, length, hfront, hscan⟩ := JsonToken.tokens?_first htokens
  exact ⟨behind, JsonToken.eq_of_beginObject hscan ▸ hfront⟩

theorem reader_value (cs : List Char) :
    reader.value (String.ofList cs) = (((JsonToken.tokens? cs).bind Document.ofTokens?).elim
      (.error .malformed) (Document.toJson maxJsonDepth)).mapError JsonError.message := by
  simp only [reader, parse, Document.parse, Document.ofText?, String.toList_ofList,
    Option.bind_eq_bind]
  cases (JsonToken.tokens? cs).bind Document.ofTokens? <;> rfl

theorem reader_lawful : reader.Lawful where
  value_return text json := by
    have htokens : JsonToken.tokens? (text ++ "\r").toList = JsonToken.tokens? text.toList := by
      rw [String.toList_append]
      exact JsonToken.tokens?_append_return text.toList
    simp only [reader, parse_eq_of_tokens htokens]
  value_object text fields h := by
    obtain ⟨rest, hrest⟩ := front_of_object (mapError_eq_ok.1 h)
    refine ⟨text.toList.takeWhile JsonToken.isSpace, rest, ?_, fun c hc => ?_⟩
    · rw [← hrest, List.takeWhile_append_dropWhile]
    · have hspace := List.all_eq_true.1 List.all_takeWhile c hc
      simpa [JsonToken.isSpace, or_assoc] using hspace
  values_inArray items hvalues hroom := by
    have hparse := parse_inArray fun item hitem => mapError_eq_ok.1 (hvalues item hitem)
    rw [if_pos hroom] at hparse
    simp only [reader, parseArray, hparse]
    rfl
  values_tooDeep items hvalues hdeep := by
    have hparse := parse_inArray fun item hitem => mapError_eq_ok.1 (hvalues item hitem)
    rw [if_neg (by simpa using hdeep)] at hparse
    simp only [reader, parseArray, hparse]
    exact ⟨_, rfl⟩

end Json
end EventRouting
