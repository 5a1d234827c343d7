import EventRouting.Proofs.Statement.Partition

set_option autoImplicit false

namespace EventRouting

theorem Detached.of_blank {rest : List Char} (h : ∀ c ∈ rest.head?, Text.isBlank c = true) :
    Detached rest := by
  intro c hc
  have hblank := h c hc
  have hne {d : Char} (hd : Text.isBlank d = false) : c ≠ d := by
    rintro rfl
    rw [hblank] at hd
    cases hd
  have hword := Text.isAlphanumeric_of_isBlank hblank
  have hascii : Text.isAsciiAlphanumeric c = false := by
    cases hclass : Text.isAsciiAlphanumeric c with
    | false => rfl
    | true => rw [Text.isAlphanumeric_of_ascii hclass] at hword; cases hword
  have hmarks : c ≠ '_' ∧ c ≠ '/' ∧ c ≠ '-' ∧ c ≠ '.' ∧ c ≠ '@' ∧ c ≠ '~' ∧ c ≠ '=' ∧ c ≠ '+' := by
    refine ⟨?_, ?_, ?_, ?_, ?_, ?_, ?_, ?_⟩ <;> exact hne (by decide)
  simp [Scan.goesOn, Scan.isWordChar, Scan.isPointerChar, Pointer.isBareChar, hword, hascii, hmarks]

namespace Source

theorem skipBlanks_position {s : Source} {gap : List Char}
    (h : s.rest = gap ++ s.skipBlanks.rest) : s.skipBlanks.position = s.position.after gap := by
  have hgap : s.rest.takeWhile Text.isBlank = gap := by
    have hsplit := List.takeWhile_append_dropWhile (p := Text.isBlank) (l := s.rest)
    rw [← skipBlanks_rest] at hsplit
    exact List.append_cancel_right (hsplit.trans h)
  rw [← hgap]
  rfl

/-- What stands behind a text that is scanned without a fault leaves its tokens alone, and is
scanned from where the text ends. -/
theorem tokens_append {s : Source} {placed : List Placed} (h : s.tokens = .ok placed) :
    ∃ read, placed = read ++ [⟨.eof, s.position.after s.rest⟩] ∧ (∀ u ∈ read, u.token ≠ .eof) ∧
      ∀ rest, Detached rest → tokens ⟨s.rest ++ rest, s.position⟩ =
        (tokens ⟨rest, s.position.after s.rest⟩).map (read ++ ·) := by
  refine tokens_induction (motive := fun s placed =>
    ∃ read, placed = read ++ [⟨.eof, s.position.after s.rest⟩] ∧ (∀ u ∈ read, u.token ≠ .eof) ∧
      ∀ rest, Detached rest → tokens ⟨s.rest ++ rest, s.position⟩ =
        (tokens ⟨rest, s.position.after s.rest⟩).map (read ++ ·)) ?done ?more h
  case done =>
    intro s hstep
    obtain ⟨gap, hgap, hrest, -⟩ := s.skipBlanks_split
    have hposition := skipBlanks_position hrest
    rw [step?_eq_none hstep, List.append_nil] at hrest
    refine ⟨[], ?_, List.forall_mem_nil _, fun rest _ => ?_⟩
    · rw [endToken, hposition, hrest]
      rfl
    · rw [hrest, tokens_blanks hgap]
      cases tokens ⟨rest, s.position.after gap⟩ <;> rfl
  case more =>
    intro s t s' others hstep hwritable ih
    obtain ⟨gap, hgap, hrest, -⟩ := s.skipBlanks_split
    have hposition := skipBlanks_position hrest
    obtain ⟨lexeme, hskip, hbehind, hscans⟩ := step?_scans hstep
    obtain ⟨read, hothers, heof, happend⟩ := ih
    rw [hskip] at hrest hposition
    have hafter : s.position.after s.rest = s'.position.after s'.rest := by
      rw [hrest, Position.after_append, Position.after_append, ← hposition, hbehind]
    refine ⟨t :: read, ?_, ?_, fun rest hdetached => ?_⟩
    · rw [hothers, hafter, List.cons_append]
    · refine List.forall_mem_cons.2 ⟨fun ht => ?_, heof⟩
      rw [ht] at hwritable
      exact hwritable
    · rw [hafter, hrest, List.append_assoc, List.append_assoc, tokens_blanks hgap, ← hposition,
        tokens_scans (hscans rest hdetached) hwritable, ← hbehind, happend rest hdetached]
      cases tokens ⟨rest, s'.position.after s'.rest⟩ <;> rfl

end Source

/-- A position in a text, when that text is put behind another one. The columns of the first line
are moved by what stands before it on the last line of the other text. -/
def Position.behind (text : List Char) (p : Position) : Position :=
  ⟨p.offset + text.length, p.line + text.count '\n',
    if p.line = 1 then p.column + (text.rtakeWhile (· ≠ '\n')).length else p.column⟩

def Placed.behind (text : List Char) (t : Placed) : Placed := ⟨t.token, t.position.behind text⟩

def LexError.behind (text : List Char) : LexError → LexError
  | .unrecognized found p => .unrecognized found (p.behind text)
  | .unterminatedString p => .unterminatedString (p.behind text)
  | .invalidNumber found p => .invalidNumber found (p.behind text)

def Source.behind (text : List Char) (s : Source) : Source := ⟨s.rest, s.position.behind text⟩

namespace Position

variable (text : List Char) {p : Position}

theorem behind_start : start.behind text = start.after text := by
  rw [start_after text [], List.append_nil, ofOffset, List.take_length]
  simp [behind, start, Nat.add_comm]

theorem next_behind (hline : 1 ≤ p.line) (c : Char) :
    (p.behind text).next c = (p.next c).behind text := by
  unfold next behind
  by_cases hc : c = '\n'
  · have hline : p.line ≠ 0 := Nat.ne_of_gt hline
    simp [hc, hline, Nat.add_right_comm]
  · by_cases hfirst : p.line = 1
    · simp [hc, hfirst, Nat.add_right_comm]
    · simp [hc, hfirst, Nat.add_right_comm]

theorem line_next (p : Position) (c : Char) : p.line ≤ (p.next c).line := by
  unfold next
  split
  · exact Nat.le_succ _
  · exact Nat.le_refl _

theorem line_after (p : Position) (cs : List Char) : p.line ≤ (p.after cs).line := by
  induction cs generalizing p with
  | nil => exact Nat.le_refl _
  | cons c cs ih => exact Nat.le_trans (p.line_next c) (ih (p.next c))

theorem after_behind (hline : 1 ≤ p.line) (cs : List Char) :
    (p.behind text).after cs = (p.after cs).behind text := by
  induction cs generalizing p with
  | nil => rfl
  | cons c cs ih =>
    rw [after_cons, after_cons, next_behind text hline,
      ih (Nat.le_trans hline (p.line_next c))]

end Position

namespace Scan

variable (text : List Char) (p : Position)

def Outcome.behind (o : Outcome) : Outcome := ⟨o.result.mapError (·.behind text), o.lexeme⟩

theorem quoted_behind (cs : List Char) :
    quoted (p.behind text) cs = (quoted p cs).behind text := by
  unfold quoted
  split <;> rfl

theorem number_behind (l : Decimal.Literal) :
    number (p.behind text) l = (number p l).behind text := by
  unfold number
  split <;> rfl

/-- Scanning reads no position; faults alone name it. -/
theorem token_behind (c : Char) (cs : List Char) :
    token (p.behind text) c cs = (token p c cs).behind text := by
  unfold token
  split
  · rfl
  · split
    · rfl
    · split
      · exact quoted_behind text p cs
      · split
        · exact number_behind text p _
        · split <;> rfl

end Scan

namespace Source

variable (text : List Char)

def resultBehind {α : Type} (f : α → α) (r : Except LexError α) : Except LexError α :=
  (r.map f).mapError (·.behind text)

theorem advance_behind {s : Source} (hline : 1 ≤ s.position.line) (cs : List Char) :
    (s.behind text).advance cs = (s.advance cs).behind text := by
  rw [advance, behind, Position.after_behind text hline]
  rfl

theorem skipBlanks_behind {s : Source} (hline : 1 ≤ s.position.line) :
    (s.behind text).skipBlanks = s.skipBlanks.behind text :=
  advance_behind text hline _

theorem line_skipBlanks {s : Source} (hline : 1 ≤ s.position.line) :
    1 ≤ s.skipBlanks.position.line :=
  Nat.le_trans hline (Position.line_after _ _)

theorem step?_behind {s : Source} (hline : 1 ≤ s.position.line) :
    (s.behind text).step? =
      s.step?.map fun r => (resultBehind text (Placed.behind text) r.1, r.2.behind text) := by
  unfold step?
  simp only [skipBlanks_behind text hline]
  have hskipped := line_skipBlanks hline
  generalize s.skipBlanks = s at hskipped
  obtain ⟨rest, p⟩ := s
  cases rest with
  | nil => rfl
  | cons c cs =>
    have htoken := Scan.token_behind text p c cs
    have hadvance := advance_behind text hskipped (Scan.token p c cs).lexeme
    simp only [behind] at hadvance ⊢
    simp only [htoken, Scan.Outcome.behind, hadvance, Option.map_some]
    cases (Scan.token p c cs).result <;> rfl

theorem endToken_behind {s : Source} (hline : 1 ≤ s.position.line) :
    (s.behind text).endToken = s.endToken.behind text := by
  rw [endToken, skipBlanks_behind text hline]
  rfl

theorem tokens_behind {s : Source} (hline : 1 ≤ s.position.line) :
    (s.behind text).tokens = resultBehind text (List.map (Placed.behind text)) s.tokens := by
  have hstep := step?_behind text hline
  induction s using Source.tokens.induct with
  | case1 s hnone =>
    rw [hnone] at hstep
    rw [tokens_eq, tokens_eq s, hnone, hstep, endToken_behind text hline]
    rfl
  | case2 s e s' herror =>
    rw [herror] at hstep
    rw [tokens_eq, tokens_eq s, herror, hstep]
    rfl
  | case3 s t s' hok found ht =>
    rw [hok] at hstep
    rw [tokens_eq, tokens_eq s, hok, hstep]
    simp only [Option.map_some, resultBehind, Fallible.map_ok, Fallible.mapError_ok,
      Placed.behind, ht]
    rfl
  | case4 s t s' hok hvalid ih =>
    obtain ⟨c, cs, -, -, -, hs'⟩ := step?_eq_ok hok
    have hline' : 1 ≤ s'.position.line := by
      rw [hs']
      exact Nat.le_trans (line_skipBlanks hline) (Position.line_after _ _)
    have htail := ih hline' (step?_behind text hline')
    rw [hok] at hstep
    rw [tokens_eq, tokens_eq s, hok, hstep]
    simp only [Option.map_some, resultBehind, Fallible.map_ok, Fallible.mapError_ok,
      Placed.behind, htail]
    cases s'.tokens <;> rfl

end Source

/-- Two texts with a blank between them, of which the first one is scanned without a fault, have
the tokens of the first one, its end token apart, and then what the second one gives where it
stands: its tokens or its fault, each moved along by the characters before it, their lines, and on
its first line the columns of the line that they end with. -/
theorem tokenize_concatenated {s gap t : String} {placed : List Placed}
    (hs : tokenize s = .ok placed) (hgap : gap ≠ "")
    (hblank : ∀ c ∈ gap.toList, Text.isBlank c = true) :
    ∃ read p, placed = read ++ [⟨.eof, p⟩] ∧ (∀ u ∈ read, u.token ≠ .eof) ∧
      (∀ others, tokenize t = .ok others →
        tokenize (s ++ gap ++ t) =
          .ok (read ++ others.map (Placed.behind (s ++ gap).toList))) ∧
      ∀ e, tokenize t = .error e →
        tokenize (s ++ gap ++ t) = .error (e.behind (s ++ gap).toList) := by
  obtain ⟨read, hread, heof, happend⟩ := Source.tokens_append hs
  have hne : gap.toList ≠ [] := by simpa using hgap
  have hdetached : Detached (gap.toList ++ t.toList) := by
    refine .of_blank fun c hc => hblank c ?_
    rw [List.head?_append_of_ne_nil _ hne] at hc
    exact List.mem_of_mem_head? hc
  have hstart : (Position.start.after s.toList).after gap.toList =
      Position.start.behind (s ++ gap).toList := by
    rw [Position.behind_start, String.toList_append, Position.after_append]
  have hbehind := Source.tokens_behind (s ++ gap).toList (s := .ofText t) (Nat.le_refl 1)
  have hjoined : tokenize (s ++ gap ++ t) =
      (Source.resultBehind (s ++ gap).toList (List.map (Placed.behind (s ++ gap).toList))
        (tokenize t)).map (read ++ ·) := by
    have htext : (s ++ gap ++ t).toList = s.toList ++ (gap.toList ++ t.toList) := by
      rw [String.toList_append, String.toList_append, List.append_assoc]
    rw [tokenize, tokenize, ← hbehind, Source.ofText, htext]
    have hjoin := happend _ hdetached
    rw [Source.ofText, Source.tokens_blanks hblank, hstart] at hjoin
    exact hjoin
  refine ⟨read, _, hread, heof, fun others hothers => ?_, fun e he => ?_⟩
  · rw [hjoined, hothers]
    rfl
  · rw [hjoined, he]
    rfl

theorem tokenize_concatenated_lines :
    let s := "/a\n<"
    let placed : List Placed :=
      [⟨.pointer ⟨["a"]⟩, ⟨0, 1, 1⟩⟩, ⟨.less, ⟨3, 2, 1⟩⟩, ⟨.eof, ⟨4, 2, 2⟩⟩]
    let others : List Placed := [⟨.integer 1, ⟨0, 1, 1⟩⟩, ⟨.and, ⟨2, 2, 1⟩⟩, ⟨.eof, ⟨5, 2, 4⟩⟩]
    tokenize s = .ok placed ∧ " " ≠ "" ∧ (∀ c ∈ " ".toList, Text.isBlank c = true) ∧
      tokenize "1\nand" = .ok others ∧
      tokenize (s ++ " " ++ "1\nand") = .ok [⟨.pointer ⟨["a"]⟩, ⟨0, 1, 1⟩⟩, ⟨.less, ⟨3, 2, 1⟩⟩,
        ⟨.integer 1, ⟨5, 2, 3⟩⟩, ⟨.and, ⟨7, 3, 1⟩⟩, ⟨.eof, ⟨10, 3, 4⟩⟩] ∧
      tokenize "1e999" = .error (.invalidNumber "1e999" ⟨0, 1, 1⟩) ∧
      tokenize (s ++ " " ++ "1e999") = .error (.invalidNumber "1e999" ⟨5, 2, 3⟩) := by
  intro s placed others
  have hs : tokenize s = .ok placed := by decide +kernel
  have hgap : " " ≠ "" := by decide
  have hblank : ∀ c ∈ " ".toList, Text.isBlank c = true :=
    List.forall_mem_singleton.2 (by decide)
  have hothers : tokenize "1\nand" = .ok others := by decide +kernel
  have herror : tokenize "1e999" = .error (.invalidNumber "1e999" ⟨0, 1, 1⟩) := by decide +kernel
  obtain ⟨read, p, hread, -, htokens, -⟩ := tokenize_concatenated (t := "1\nand") hs hgap hblank
  obtain ⟨-, -, -, -, -, hfault⟩ := tokenize_concatenated (t := "1e999") hs hgap hblank
  have hbefore : read = placed.dropLast := by rw [hread, List.dropLast_concat]
  refine ⟨hs, hgap, hblank, hothers, ?_, herror, ?_⟩
  · rw [htokens others hothers, hbefore]
    decide +kernel
  · rw [hfault _ herror]
    decide +kernel

end EventRouting
