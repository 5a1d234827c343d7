import EventRouting.Proofs.Json.Laws
import EventRouting.Proofs.Text.Lines
import EventRouting.Routing.Records

set_option autoImplicit false

/-!
# Record files as lines and as an array

A file with a record on each line and the array of the same texts are read as the same records.
Lines go by line feeds, with or without carriage returns, and those of blanks count for nothing. In
the array each record is one level deeper, so it must leave that level room.
-/
namespace EventRouting

open Fallible

theorem JsonReader.Lawful.value_dropReturn {reader : JsonReader} (hreader : reader.Lawful)
    {text : String} {json : Json} (h : reader.value text = .ok json) :
    reader.value (String.ofList (Text.dropReturn text.toList)) = .ok json := by
  rw [Text.dropReturn]
  split
  · rename_i hlast
    obtain ⟨line, hline⟩ := List.getLast?_eq_some_iff.1 hlast
    have htext : String.ofList line ++ "\r" = text := by
      rw [← String.toList_inj, String.toList_append, String.toList_ofList, hline]
      rfl
    rw [hline, List.dropLast_concat, ← hreader.value_return, htext]
    exact h
  · rwa [String.ofList_toList]

/-- A text without line feeds that writes a JSON object. -/
structure WritesRecord (reader : JsonReader) (text : String) (j : Json) : Prop where
  reads : reader.value text = .ok j
  object : ∃ fields, j = .object fields
  oneLine : '\n' ∉ text.toList

theorem WritesRecord.front {reader : JsonReader} (hreader : reader.Lawful) {text : String}
    {j : Json} (h : WritesRecord reader text j) :
    ∃ c rest, text.toList.dropWhile Text.isBlank = c :: rest ∧ c ≠ '[' := by
  obtain ⟨fields, rfl⟩ := h.object
  obtain ⟨blanks, rest, htext, hblanks⟩ := hreader.value_object text fields h.reads
  have hblank : ∀ c ∈ blanks, Text.isBlank c = true := by
    have hall : ∀ c ∈ [' ', '\t', '\n', '\r'], Text.isBlank c = true :=
      List.all_eq_true.1 (by decide)
    exact fun c hc => hall c (hblanks c hc)
  refine ⟨'\x7b', rest, ?_, by decide⟩
  rw [htext, List.dropWhile_append_of_pos hblank, List.dropWhile_cons_of_neg (by decide)]

def Json.soleNumber? : Json → Option (String × JsonNumber)
  | .object [(key, .number n)] => some (key, n)
  | _ => none

theorem Json.eq_of_soleNumber? {ε : Type} {x : Except ε Json} {key : String} {n : JsonNumber}
    (h : x.toOption.bind soleNumber? = some (key, n)) : x = .ok (.object [(key, .number n)]) := by
  cases x with
  | error e => cases h
  | ok j =>
    have hj : j.soleNumber? = some (key, n) := h
    unfold soleNumber? at hj
    split at hj
    · cases hj
      rfl
    · cases hj

namespace Records

def lineEnds : List (List Char) := [['\n'], ['\r', '\n']]

/-- Files with one text on each line that is not blank. The last line need not be ended. -/
inductive OnLines : List String → List Char → Prop
  | blankEnd {blanks : List Char} :
    (∀ c ∈ blanks, Text.isBlank c = true) → '\n' ∉ blanks → OnLines [] blanks
  | textEnd {text : String} : OnLines [text] text.toList
  | blank {blanks lineEnd file : List Char} {texts : List String} :
    (∀ c ∈ blanks, Text.isBlank c = true) → '\n' ∉ blanks → lineEnd ∈ lineEnds →
      OnLines texts file → OnLines texts (blanks ++ lineEnd ++ file)
  | text {text : String} {lineEnd file : List Char} {texts : List String} :
    lineEnd ∈ lineEnds → OnLines texts file →
      OnLines (text :: texts) (text.toList ++ lineEnd ++ file)

def filled (cs : List Char) : List (List Char) :=
  (Text.splitLines cs).filter fun line => !line.all Text.isBlank

theorem ofLines_eq (reader : JsonReader) (cs : List Char) :
    ofLines reader (String.ofList cs) =
      (filled cs).mapM fun line => reader.event (String.ofList line) := by
  have hfilter (lines : List (List Char)) :
      (lines.map String.ofList).filter (fun line => !Text.isBlankLine line) =
        (lines.filter fun line => !line.all Text.isBlank).map String.ofList := by
    rw [List.filter_map]
    congr 2
    funext line
    simp [Text.isBlankLine]
  rw [ofLines, Text.lines, String.toList_ofList, hfilter, List.mapM_map]
  rfl

theorem filled_last {line : List Char} (h : '\n' ∉ line) :
    filled line = if line.all Text.isBlank then [] else [line] := by
  cases line with
  | nil => rfl
  | cons c line =>
    rw [filled, Text.splitLines_last h (List.cons_ne_nil c line)]
    cases hblank : (c :: line).all Text.isBlank <;> simp [hblank]

theorem splitLines_ended {line : List Char} (h : '\n' ∉ line) {lineEnd : List Char}
    (hend : lineEnd ∈ lineEnds) (rest : List Char) :
    ∃ kept, (kept = line ∨ kept = Text.dropReturn line) ∧
      Text.splitLines (line ++ lineEnd ++ rest) = kept :: Text.splitLines rest := by
  simp only [lineEnds, List.mem_cons, List.not_mem_nil, or_false] at hend
  rcases hend with rfl | rfl
  · refine ⟨Text.dropReturn line, .inr rfl, ?_⟩
    rw [List.append_assoc, List.singleton_append, Text.splitLines_line h]
  · have hreturn : '\n' ∉ line ++ ['\r'] := List.not_mem_append h (by decide)
    have hline : line ++ ['\r', '\n'] ++ rest = (line ++ ['\r']) ++ '\n' :: rest := by simp
    refine ⟨line, .inl rfl, ?_⟩
    rw [hline, Text.splitLines_line hreturn, Text.dropReturn_concat]

theorem all_isBlank_dropReturn (line : List Char) :
    (Text.dropReturn line).all Text.isBlank = line.all Text.isBlank := by
  unfold Text.dropReturn
  split
  · rename_i hlast
    obtain ⟨front, rfl⟩ := List.getLast?_eq_some_iff.1 hlast
    have hreturn : Text.isBlank '\r' = true := by decide
    simp [hreturn]
  · rfl

theorem filled_ended {line : List Char} (h : '\n' ∉ line) {lineEnd : List Char}
    (hend : lineEnd ∈ lineEnds) (rest : List Char) :
    ∃ kept, (kept = line ∨ kept = Text.dropReturn line) ∧
      filled (line ++ lineEnd ++ rest) =
        if line.all Text.isBlank then filled rest else kept :: filled rest := by
  obtain ⟨kept, hkept, hlines⟩ := splitLines_ended h hend rest
  have hblank : kept.all Text.isBlank = line.all Text.isBlank := by
    rcases hkept with rfl | rfl
    · rfl
    · exact all_isBlank_dropReturn line
  refine ⟨kept, hkept, ?_⟩
  rw [filled, hlines, List.filter_cons, hblank, ← filled]
  cases line.all Text.isBlank <;> rfl

/-- The filled lines of a file are its texts, up to a carriage return at the end of each. -/
theorem OnLines.filled_eq {texts : List String} {file : List Char} (h : OnLines texts file)
    (htexts : ∀ text ∈ texts, '\n' ∉ text.toList ∧ text.toList.all Text.isBlank = false) :
    List.Forall₂ (fun text line => line = text.toList ∨ line = Text.dropReturn text.toList) texts
      (filled file) := by
  induction h with
  | blankEnd hblank hfeed =>
    rw [filled_last hfeed, if_pos (List.all_eq_true.2 hblank)]
    exact .nil
  | @textEnd text =>
    obtain ⟨hfeed, hfilled⟩ := htexts text List.mem_cons_self
    rw [filled_last hfeed, if_neg (by simp [hfilled])]
    exact .cons (.inl rfl) .nil
  | blank hblank hfeed hend hfile ih =>
    obtain ⟨kept, -, hlines⟩ := filled_ended hfeed hend _
    rw [hlines, if_pos (List.all_eq_true.2 hblank)]
    exact ih htexts
  | @text text lineEnd file texts hend hfile ih =>
    obtain ⟨⟨hfeed, hfilled⟩, hmore⟩ := List.forall_mem_cons.1 htexts
    obtain ⟨kept, hkept, hlines⟩ := filled_ended hfeed hend file
    rw [hlines, if_neg (by simp [hfilled])]
    exact .cons hkept (ih hmore)

theorem dropWhile_all {cs : List Char} (h : ∀ c ∈ cs, Text.isBlank c = true) :
    cs.dropWhile Text.isBlank = [] := by
  have hdrop : (cs ++ []).dropWhile Text.isBlank = [] := List.dropWhile_append_of_pos h
  rwa [List.append_nil] at hdrop

theorem isBlank_of_mem_lineEnd {lineEnd : List Char} (h : lineEnd ∈ lineEnds) :
    ∀ c ∈ lineEnd, Text.isBlank c = true := by
  have hfeed : Text.isBlank '\n' = true := by decide
  have hreturn : Text.isBlank '\r' = true := by decide
  simp only [lineEnds, List.mem_cons, List.not_mem_nil, or_false] at h
  rcases h with rfl | rfl
  · simp [hfeed]
  · simp [hfeed, hreturn]

theorem OnLines.front {texts : List String} {file : List Char} (h : OnLines texts file)
    (htexts : ∀ text ∈ texts,
      ∃ c rest, text.toList.dropWhile Text.isBlank = c :: rest ∧ c ≠ '[') :
    (file.dropWhile Text.isBlank).head? ≠ some '[' := by
  have hfront {text : String} (hmem : text ∈ texts) (more : List Char) :
      ((text.toList ++ more).dropWhile Text.isBlank).head? ≠ some '[' := by
    obtain ⟨c, rest, hdrop, hc⟩ := htexts text hmem
    rw [List.dropWhile_append, hdrop]
    simpa using hc
  induction h with
  | @blankEnd blanks hblank hfeed =>
    rw [dropWhile_all hblank]
    simp
  | @textEnd text =>
    have := hfront List.mem_cons_self []
    rwa [List.append_nil] at this
  | blank hblank hfeed hend hfile ih =>
    rw [List.append_assoc, List.dropWhile_append_of_pos hblank,
      List.dropWhile_append_of_pos (isBlank_of_mem_lineEnd hend)]
    exact ih htexts hfront
  | text hend hfile ih =>
    rw [List.append_assoc]
    exact hfront List.mem_cons_self _

section

variable {reader : JsonReader} (hreader : reader.Lawful) {records : List (String × Json)}
  (h : ∀ r ∈ records, WritesRecord reader r.1 r.2)

include hreader h

theorem parse_onLines {file : List Char} (hfile : OnLines (records.map (·.1)) file) :
    parse reader (String.ofList file) = .ok (records.map fun r => Event.ofJson r.2) := by
  have hfront : ∀ text ∈ records.map (·.1),
      ∃ c rest, text.toList.dropWhile Text.isBlank = c :: rest ∧ c ≠ '[' := by
    intro text htext
    obtain ⟨r, hr, rfl⟩ := List.mem_map.1 htext
    exact (h r hr).front hreader
  have hfilled : ∀ text ∈ records.map (·.1),
      '\n' ∉ text.toList ∧ text.toList.all Text.isBlank = false := by
    intro text htext
    obtain ⟨c, rest, hdrop, -⟩ := hfront text htext
    obtain ⟨r, hr, rfl⟩ := List.mem_map.1 htext
    refine ⟨(h r hr).oneLine, ?_⟩
    cases hblank : r.1.toList.all Text.isBlank with
    | false => rfl
    | true =>
      rw [dropWhile_all (List.all_eq_true.1 hblank)] at hdrop
      cases hdrop
  have hfirst : (Text.dropBlanks (String.ofList file)).toList.head? ≠ some '[' := by
    rw [Text.dropBlanks, String.toList_ofList, String.toList_ofList]
    exact hfile.front hfront
  have hlines := List.forall₂_map_left_iff.1 (hfile.filled_eq hfilled)
  rw [parse_eq_ofLines hfirst, ofLines_eq]
  refine mapM_eq_ok_of_forall₂ (((List.forall₂_and_left _ _).2 ⟨h, hlines⟩).imp ?_)
  rintro r line ⟨hr, hline⟩
  have hvalue : reader.value (String.ofList line) = .ok r.2 := by
    rcases hline with rfl | rfl
    · rw [String.ofList_toList]
      exact hr.reads
    · exact hreader.value_dropReturn hr.reads
  rw [JsonReader.event, hvalue]
  rfl

omit hreader h in
theorem parse_array (texts : List String) :
    parse reader (inArray texts) = ofArray reader (inArray texts) := by
  have htext : (inArray texts).toList = '[' :: (String.intercalate "," texts ++ "]").toList := by
    rw [inArray, String.append_assoc, String.toList_append]
    rfl
  have htrimmed : Text.dropBlanks (inArray texts) = inArray texts := by
    rw [Text.dropBlanks, htext, List.dropWhile_cons_of_neg (by decide), ← htext,
      String.ofList_toList]
  simp only [parse, htrimmed]
  rw [if_pos (by rw [htext]; rfl)]

theorem parse_inArray (hroom : ∀ r ∈ records, 1 + writtenNesting r.1 ≤ nestingLimit) :
    parse reader (inArray (records.map (·.1))) = .ok (records.map fun r => Event.ofJson r.2) := by
  have hvalues := hreader.values_inArray records (fun r hr => (h r hr).reads) hroom
  rw [parse_array, ofArray, hvalues, map_ok, List.map_map]
  rfl

theorem parse_inArray_tooDeep (hdeep : ∃ r ∈ records, nestingLimit < 1 + writtenNesting r.1) :
    ∃ message, parse reader (inArray (records.map (·.1))) = .error message := by
  obtain ⟨message, hvalues⟩ :=
    hreader.values_tooDeep records (fun r hr => (h r hr).reads) hdeep
  exact ⟨message, by rw [parse_array, ofArray, hvalues, map_error]⟩

end

end Records

end EventRouting
