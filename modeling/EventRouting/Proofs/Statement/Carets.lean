import EventRouting.Proofs.Decimal.Prefix
import EventRouting.Proofs.Statement.Locating
import EventRouting.Proofs.Text.Lines

set_option autoImplicit false

/-!
# The caret under a fault

The lexer counts lines and columns while it reads, and the message finds the line again by its
number. Both go by the line feeds: as many as there are before an offset, that many lines end
before it, and what stands behind the last of them is how the offset's own line begins. So the
line that is shown runs through the offset, and the caret under it is at this place.
-/
namespace EventRouting

namespace Text

theorem rtakeWhile_line (line rest : List Char) :
    (line ++ '\n' :: rest).rtakeWhile (· ≠ '\n') = rest.rtakeWhile (· ≠ '\n') := by
  have hstop : ∀ c ∈ ('\n' :: line.reverse).head?, decide (c ≠ '\n') = false := by simp
  have htake := (takeWhile_append_of_stop hstop rest.reverse).1
  simp only [List.rtakeWhile, List.reverse_append, List.reverse_cons, List.append_assoc,
    List.singleton_append]
  rw [htake]

theorem rtakeWhile_last {line : List Char} (h : '\n' ∉ line) :
    line.rtakeWhile (· ≠ '\n') = line := by
  refine List.rtakeWhile_eq_self_iff.2 fun c hc => decide_eq_true ?_
  rintro rfl
  exact h hc

theorem lineAt_append (before rest : List Char) :
    lineAt (before ++ rest) (before.count '\n') =
      lineAt (before.rtakeWhile (· ≠ '\n') ++ rest) 0 := by
  induction hlines : before.count '\n' generalizing before with
  | zero => rw [rtakeWhile_last (List.count_eq_zero.1 hlines)]
  | succ k ih =>
    rcases line_cases before with hlast | ⟨line, more, rfl, hline⟩
    · rw [List.count_eq_zero_of_not_mem hlast] at hlines
      cases hlines
    · have hmore : more.count '\n' = k := by
        simpa [List.count_eq_zero_of_not_mem hline] using hlines
      rw [List.append_assoc, List.cons_append, lineAt_line_succ hline, rtakeWhile_line]
      exact ih more hmore

theorem dropReturn_through (start rest : List Char) {c : Char} (hc : c ≠ '\r') :
    ∃ kept, dropReturn (start ++ c :: rest) = start ++ c :: kept := by
  unfold dropReturn
  split
  · rename_i hlast
    cases rest with
    | nil => simp [hc] at hlast
    | cons d rest =>
      refine ⟨(d :: rest).dropLast, ?_⟩
      rw [List.dropLast_append_of_ne_nil (List.cons_ne_nil c _), List.dropLast_cons_cons]
  · exact ⟨rest, rfl⟩

/-- A line runs through its characters, up to those of a line break. -/
theorem lineAt_through {start : List Char} (hstart : '\n' ∉ start) {c : Char} (hfeed : c ≠ '\n')
    (hreturn : c ≠ '\r') (rest : List Char) :
    ∃ kept, lineAt (start ++ c :: rest) 0 = start ++ c :: kept := by
  have hthrough : '\n' ∉ start ++ [c] := by simp [hstart, Ne.symm hfeed]
  rcases line_cases rest with hrest | ⟨line, more, rfl, hline⟩
  · refine ⟨rest, ?_⟩
    rw [lineAt_last (by simp [hstart, Ne.symm hfeed, hrest]), if_pos rfl]
  · obtain ⟨kept, hkept⟩ := dropReturn_through start line hreturn
    refine ⟨kept, ?_⟩
    rw [← hkept, ← List.cons_append, ← List.append_assoc,
      lineAt_line_zero (by simp [hstart, Ne.symm hfeed, hline])]

end Text

namespace Position

theorem toList_lineText (p : Position) (source : String) :
    (p.lineText source).toList = Text.lineAt source.toList (p.line - 1) := by
  rw [← Text.splitLines_getElem?, lineText, Text.lines, List.getElem?_map]
  cases (Text.splitLines source.toList)[p.line - 1]? with
  | none => rfl
  | some line => simp

theorem toList_spaces (n : Nat) : (spaces n).toList = List.replicate n ' ' := by
  simp [spaces]

/-- What stands left of the line that is shown. -/
def margin (p : Position) : String := Text.digits 10 p.line ++ " | "

def caretMargin (p : Position) : String := spaces ((Text.digits 10 p.line).length + 1) ++ "| "

theorem length_margin (p : Position) : p.margin.length = p.caretMargin.length := by
  simp only [margin, caretMargin, String.length_append, spaces, String.length_ofList,
    List.length_replicate]
  rfl

theorem lineFeed_notMem_margin (p : Position) : '\n' ∉ p.margin.toList := by
  rw [margin, String.toList_append, Text.digits, String.toList_ofList]
  exact List.not_mem_append (Text.isDigits_toDigits p.line).lineFeed_notMem (by decide)

theorem lineFeed_notMem_caretMargin (p : Position) : '\n' ∉ p.caretMargin.toList := by
  rw [caretMargin, String.toList_append, toList_spaces]
  exact List.not_mem_append (by simp) (by decide)

theorem caret_eq (p : Position) (source : String) :
    ∃ arrow, p.caret source = arrow ++ "\n" ++ (p.margin ++ p.lineText source) ++ "\n" ++
      (p.caretMargin ++ spaces (p.column - 1) ++ "^") := by
  have hbar (s : String) : "|\n" ++ s = "|" ++ ("\n" ++ s) := by
    rw [← String.append_assoc]
    rfl
  refine ⟨"\n--> " ++ p.toText ++ "\n" ++ spaces ((Text.digits 10 p.line).length + 1) ++ "|", ?_⟩
  unfold caret margin caretMargin
  simp only [String.append_assoc]
  rw [hbar]

theorem caret_lines (p : Position) (fault source : String) :
    ∃ head, (fault ++ p.caret source).toList.splitOn '\n' = head ++
      [p.margin.toList ++ Text.lineAt source.toList (p.line - 1),
        p.caretMargin.toList ++ List.replicate (p.column - 1) ' ' ++ ['^']] := by
  obtain ⟨arrow, harrow⟩ := p.caret_eq source
  have hline : '\n' ∉ p.margin.toList ++ Text.lineAt source.toList (p.line - 1) :=
    List.not_mem_append p.lineFeed_notMem_margin (Text.lineFeed_notMem_lineAt _ _)
  have hcaret : '\n' ∉ p.caretMargin.toList ++ List.replicate (p.column - 1) ' ' ++ ['^'] :=
    List.not_mem_append (List.not_mem_append p.lineFeed_notMem_caretMargin (by simp)) (by decide)
  have htext : (fault ++ p.caret source).toList = (fault ++ arrow).toList ++
      '\n' :: ((p.margin.toList ++ Text.lineAt source.toList (p.line - 1)) ++
        '\n' :: (p.caretMargin.toList ++ List.replicate (p.column - 1) ' ' ++ ['^'])) := by
    have hfeed : "\n".toList = ['\n'] := rfl
    have hmark : "^".toList = ['^'] := rfl
    simp only [harrow, String.toList_append, toList_lineText, toList_spaces, hfeed, hmark,
      List.append_assoc, List.cons_append, List.nil_append]
  refine ⟨(fault ++ arrow).toList.splitOn '\n', ?_⟩
  rw [htext, List.splitOn_append_cons_self, Text.splitOn_line hline,
    List.splitOn_eq_singleton hcaret]

theorem Marks.lineAt {text : List Char} {p : Position} (h : p.Marks text) :
    (∃ c, text[p.offset]? = some c ∧
      (Text.lineAt text (p.line - 1))[p.column - 1]? = some c) ∨
    (p.offset = text.length ∧ (Text.lineAt text (p.line - 1)).length = p.column - 1) := by
  let before := text.take p.offset
  let start := before.rtakeWhile (· ≠ '\n')
  have hline : p.line - 1 = before.count '\n' := by
    rw [h.counted]
    exact Nat.add_sub_cancel_left 1 _
  have hcolumn : p.column - 1 = start.length := by
    rw [h.counted]
    exact Nat.add_sub_cancel_left 1 _
  have hstart : '\n' ∉ start := by
    intro hmem
    simpa using List.mem_rtakeWhile_imp hmem
  have hlineAt : Text.lineAt text (p.line - 1) = Text.lineAt (start ++ text.drop p.offset) 0 := by
    rw [hline, ← Text.lineAt_append, List.take_append_drop]
  rw [hlineAt, hcolumn]
  cases hrest : text.drop p.offset with
  | nil =>
    right
    have hend : p.offset = text.length :=
      Nat.le_antisymm h.inside (List.drop_eq_nil_iff.1 hrest)
    refine ⟨hend, ?_⟩
    rw [List.append_nil, Text.lineAt_last hstart, if_pos rfl]
  | cons c rest =>
    left
    have hhere : text[p.offset]? = some c := by rw [← List.head?_drop, hrest, List.head?_cons]
    have hblank := h.begins c hhere
    have hfeed : c ≠ '\n' := by
      rintro rfl
      exact absurd hblank (by decide)
    have hreturn : c ≠ '\r' := by
      rintro rfl
      exact absurd hblank (by decide)
    obtain ⟨kept, hkept⟩ := Text.lineAt_through hstart hfeed hreturn rest
    refine ⟨c, hhere, ?_⟩
    rw [hkept, List.getElem?_append_right (Nat.le_refl _), Nat.sub_self]
    rfl

end Position

/-- An error can be written if and only if its caret is not too far to the right. -/
theorem CompileError.message?_eq_none_iff {e : CompileError} :
    e.message? = none ↔ Position.maxFill < e.position.column - 1 := by
  rw [message?, Option.map_eq_none_iff, Position.caret?]
  split <;> simp <;> omega

/-- The caret points at the character a text fails at, if its column can be written. The message
ends with the line of the text that has the number of the fault's line, and a line whose margin is
as wide, with the caret as far behind it as the fault's column says. There the shown line has the
character at the fault's offset, or it ends there and so does the text. -/
theorem Statement.caret_under_fault {text : String} {e : CompileError}
    (h : compile text = .error e) (hcolumn : e.position.column ≤ 65536) :
    ∃ message head margin margin' shown,
      e.message? = some message ∧
      message.toList.splitOn '\n' =
        head ++ [margin ++ shown, margin' ++ List.replicate (e.position.column - 1) ' ' ++ ['^']] ∧
      margin.length = margin'.length ∧
      shown = Text.lineAt text.toList (e.position.line - 1) ∧
      e.position = .ofOffset text.toList e.position.offset ∧
      ((∃ c, text.toList[e.position.offset]? = some c ∧
          shown[e.position.column - 1]? = some c) ∨
        (e.position.offset = text.length ∧ shown.length = e.position.column - 1)) := by
  obtain ⟨hstatement, hmarks⟩ := compile_marks h
  obtain ⟨head, hlines⟩ := e.position.caret_lines e.fault.message text
  refine ⟨_, head, e.position.margin.toList, e.position.caretMargin.toList, _, ?_, hlines,
    e.position.length_margin, rfl, hmarks.counted, hmarks.lineAt⟩
  have hfits : e.position.column - 1 ≤ Position.maxFill := Nat.sub_le_of_le_add hcolumn
  rw [CompileError.message?, Position.caret?, if_pos hfits, hstatement]
  rfl

theorem Statement.caret_under_fault_third_line :
    let text := "\"a\r\nb\" ==\r\n ?"
    let e : CompileError := ⟨text, .lex (.unrecognized "?" ⟨12, 3, 2⟩)⟩
    compile text = .error e ∧ e.position.column ≤ 65536 ∧
      ∃ message head margin margin', e.message? = some message ∧ margin.length = margin'.length ∧
        message.toList.splitOn '\n' =
          head ++ [margin ++ [' ', '?'], margin' ++ [' '] ++ ['^']] := by
  intro text e
  have hread : tokenize text = .error (.unrecognized "?" ⟨12, 3, 2⟩) := by decide +kernel
  have h : compile text = .error e := by
    rw [compile, exprOf, hread]
  have hcolumn : e.position.column ≤ 65536 := by decide
  obtain ⟨message, head, margin, margin', shown, hmessage, hlines, hmargins, hshown, -⟩ :=
    caret_under_fault h hcolumn
  have hline : Text.lineAt text.toList 2 = [' ', '?'] := by decide +kernel
  rw [hshown.trans hline] at hlines
  exact ⟨h, hcolumn, message, head, margin, margin', hmessage, hmargins, hlines⟩

end EventRouting
