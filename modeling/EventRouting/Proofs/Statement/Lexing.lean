import EventRouting.Proofs.Decimal.Layout
import EventRouting.Proofs.Statement.Escapes

set_option autoImplicit false

namespace EventRouting

namespace Token

def written : Token → List Char
  | .string s => Expr.stringText s
  | t => t.toText.toList

def Writable : Token → Prop
  | .float x => x.isFinite = true
  | .pointer p => p.segments ≠ []
  | .invalid _ => False
  | .eof => False
  | _ => True

end Token

/-- Text that goes on with no token: it is at its end, or begins with a space, a comma or a
closing bracket. -/
def Delimited (rest : List Char) : Prop :=
  ∀ c ∈ rest.head?, c = ' ' ∨ c = ',' ∨ c = ')' ∨ c = ']'

namespace Delimited

theorem nil : Delimited [] := by
  simp [Delimited]

theorem cons {c : Char} (h : c = ' ' ∨ c = ',' ∨ c = ')' ∨ c = ']') (cs : List Char) :
    Delimited (c :: cs) := by
  rintro d hd
  obtain rfl : c = d := by simpa using hd
  exact h

theorem head_eq_false {f : Char → Bool} (hspace : f ' ' = false) (hcomma : f ',' = false)
    (hparen : f ')' = false) (hbracket : f ']' = false) {rest : List Char} (h : Delimited rest) :
    ∀ c ∈ rest.head?, f c = false := by
  intro c hc
  rcases h c hc with rfl | rfl | rfl | rfl <;> assumption

theorem literal_ends {rest : List Char} (h : Delimited rest) : Decimal.Literal.Ends rest := by
  intro c hc
  rcases h c hc with rfl | rfl | rfl | rfl <;> decide

end Delimited

namespace Scan

/-- Before `rest`, the text `cs` is scanned as the token `t`. -/
def Scans (cs : List Char) (t : Token) (rest : List Char) : Prop :=
  ∃ c tail, cs = c :: tail ∧ Text.isBlank c = false ∧
    ∀ p, token p c (tail ++ rest) = ⟨.ok t, cs⟩

theorem scans_symbol {c : Char} {tail rest : List Char} {t : Token}
    (hblank : Text.isBlank c = false) (h : symbol? c (tail ++ rest) = some (t, tail.length + 1)) :
    Scans (c :: tail) t rest := by
  refine ⟨c, tail, rfl, hblank, fun p => ?_⟩
  simp [token, h]

theorem symbol?_eq_none {c : Char} (h : c ∉ ['=', '!', '<', '>', '(', ')', '[', ']', ','])
    (cs : List Char) : symbol? c cs = none := by
  unfold symbol?
  split <;> simp at h ⊢

theorem no_mark_of_class {f : Char → Bool} {c : Char}
    (hf : ['=', '!', '<', '>', '(', ')', '[', ']', ',', '/', '"'].any f = false)
    (h : f c = true) : (∀ cs, symbol? c cs = none) ∧ c ≠ '/' ∧ c ≠ '"' := by
  rw [List.any_eq_false] at hf
  refine ⟨symbol?_eq_none fun hmem => ?_, ?_, ?_⟩
  · exact hf c (List.mem_append_left ['/', '"'] hmem) h
  · rintro rfl
    exact hf '/' (by simp) h
  · rintro rfl
    exact hf '"' (by simp) h

theorem symbol?_less {rest : List Char} (h : ∀ tail, rest ≠ '=' :: tail) :
    symbol? '<' rest = some (.less, 1) := by
  unfold symbol?
  split <;> simp_all

theorem symbol?_greater {rest : List Char} (h : ∀ tail, rest ≠ '=' :: tail) :
    symbol? '>' rest = some (.greater, 1) := by
  unfold symbol?
  split <;> simp_all

theorem isDigit_of_letter {c : Char} (h : Text.isAsciiLetter c = true) :
    Text.isDigit c = false := by
  simp only [Text.isAsciiLetter, Char.le_def, UInt32.le_iff_toNat_le, Bool.or_eq_true,
    Bool.and_eq_true, decide_eq_true_eq] at h
  simp only [Text.isDigit, Char.le_def, UInt32.le_iff_toNat_le, Bool.and_eq_false_iff,
    decide_eq_false_iff_not]
  have ha : 'a'.val.toNat = 97 := rfl
  have hA : 'A'.val.toNat = 65 := rfl
  have h9 : '9'.val.toNat = 57 := rfl
  omega

theorem scans_literal {l : Decimal.Literal} (hl : l.WellFormed) {t : Token}
    (ht : numberToken? l = some t) {rest : List Char} (hrest : Delimited rest) :
    Scans l.text t rest := by
  obtain ⟨c, tail, htext, hc⟩ := Decimal.Literal.text_head hl
  have hscan := Decimal.Literal.scan_text hl hrest.literal_ends
  rw [htext] at hscan
  have hclass : (decide (c = '-') || Text.isDigit c) = true := by simpa using hc
  obtain ⟨hsymbol, hslash, hquote⟩ :=
    no_mark_of_class (f := fun c => c = '-' || Text.isDigit c) (by decide) hclass
  refine ⟨c, tail, htext, ?_, fun p => ?_⟩
  · rcases hc with rfl | hc
    · decide
    · exact Text.isBlank_of_ascii (by simp [Text.isAsciiAlphanumeric, hc])
  · simp only [List.cons_append] at hscan
    simp [token, hsymbol, hslash, hquote, hscan, number, ht]

theorem scans_string (s : String) (rest : List Char) :
    Scans (Expr.stringText s) (.string s) rest := by
  have hbody := (unclosed_escapeBody s.toList).quotedBody_eq rest
  refine ⟨'"', Expr.escapeBody s.toList ++ ['"'], rfl, by decide, fun p => ?_⟩
  have hsymbol := symbol?_eq_none (c := '"') (by decide)
  simp [token, hsymbol, quoted, hbody, quotedToken_escapeBody, Expr.stringText]

theorem scans_pointer {p : Pointer} (h : p.segments ≠ []) {rest : List Char}
    (hrest : Delimited rest) : Scans p.toChars (.pointer p) rest := by
  cases hbare : p.isBare with
  | true =>
    obtain ⟨body, hchars, hbody, hpointer⟩ := Pointer.bare_chars h hbare
    have hstop := hrest.head_eq_false (f := isPointerChar) rfl rfl rfl rfl
    have htake := (Text.takeWhile_append hbody hstop).1
    have hsymbol := symbol?_eq_none (c := '/') (by decide)
    refine ⟨'/', body, hchars, by decide, fun q => ?_⟩
    simp [token, hsymbol, htake, hpointer, hchars]
  | false =>
    obtain ⟨body, hchars, hbody, hpointer⟩ := Pointer.quoted_chars h hbare
    have hclosed := hbody.quotedBody_eq rest
    have hsymbol := symbol?_eq_none (c := '"') (by decide)
    refine ⟨'"', body ++ ['"'], hchars, by decide, fun q => ?_⟩
    simp [token, hsymbol, quoted, hclosed, hpointer, hchars]

theorem scans_word {c : Char} {tail rest : List Char} (hc : Text.isAsciiLetter c = true)
    (htail : tail.all Text.isAsciiLetter = true) (hrest : Delimited rest) :
    Scans (c :: tail) (wordToken (c :: tail)) rest := by
  have hascii {d : Char} (hd : Text.isAsciiLetter d = true) :
      Text.isAsciiAlphanumeric d = true := by
    simp [Text.isAsciiAlphanumeric, hd]
  have htake : (tail ++ rest).takeWhile isWordChar = tail := by
    refine (Text.takeWhile_append (fun d hd => ?_) (hrest.head_eq_false ?_ ?_ ?_ ?_)).1
    · simp [isWordChar, Text.isAlphanumeric_of_ascii (hascii (List.all_eq_true.1 htail d hd))]
    all_goals decide
  have hstart : isWordStart c = true := by
    simp [isWordStart, Text.isAlphabetic, Text.isAscii_of_alphanumeric (hascii hc), hc]
  obtain ⟨hsymbol, hslash, hquote⟩ := no_mark_of_class (by decide) hc
  have hminus : c ≠ '-' := by rintro rfl; revert hc; decide
  have hliteral : Decimal.Literal.scan (c :: (tail ++ rest)) = none := by
    simp [Decimal.Literal.scan, hminus, Decimal.Literal.scanUnsigned, isDigit_of_letter hc]
  refine ⟨c, tail, rfl, Text.isBlank_of_ascii (hascii hc), fun p => ?_⟩
  simp [token, hsymbol, hslash, hquote, hliteral, hstart, htake]

end Scan

theorem Token.Writable.scans {t : Token} (h : t.Writable) {rest : List Char}
    (hrest : Delimited rest) : Scan.Scans t.written t rest := by
  have hequals : ∀ tail, rest ≠ '=' :: tail := by
    rintro tail rfl
    exact absurd (hrest '=' rfl) (by decide)
  cases t with
  | float x =>
    obtain ⟨l, hl, hinteger, htext, hvalue⟩ := Binary64.toText_literal h
    have ht : Scan.numberToken? l = some (.float x) := by
      rw [Scan.numberToken?, hinteger, hvalue]
      simp only [Writable] at h
      simp [h]
    show Scan.Scans x.toText.toList _ rest
    rw [← htext]
    exact Scan.scans_literal hl ht hrest
  | integer n =>
    have ht : Scan.numberToken? (.ofInt n.toInt) = some (.integer n) := by
      rw [Scan.numberToken?, Decimal.Literal.ofInt_integer, Int64.ofInt?_toInt]
      rfl
    show Scan.Scans (Text.ofInt n.toInt).toList _ rest
    rw [← Decimal.Literal.ofInt_text]
    exact Scan.scans_literal (Decimal.Literal.ofInt_wellFormed _) ht hrest
  | string s => exact Scan.scans_string s rest
  | boolean b =>
    cases b with
    | false => exact Scan.scans_word (by decide) (by decide) hrest
    | true => exact Scan.scans_word (by decide) (by decide) hrest
  | pointer p =>
    show Scan.Scans p.toText.toList _ rest
    rw [Pointer.toText, String.toList_ofList]
    exact Scan.scans_pointer h hrest
  | invalid text => exact h.elim
  | eof => exact h.elim
  | null | and | or | not | member => exact Scan.scans_word (by decide) (by decide) hrest
  | less => exact Scan.scans_symbol (c := '<') (by decide) (Scan.symbol?_less hequals)
  | greater => exact Scan.scans_symbol (c := '>') (by decide) (Scan.symbol?_greater hequals)
  | _ => exact Scan.scans_symbol (by decide) rfl

namespace Source

theorem skipBlanks_cons {c : Char} (h : Text.isBlank c = true) (cs : List Char) (p : Position) :
    skipBlanks ⟨c :: cs, p⟩ = skipBlanks ⟨cs, p.next c⟩ := by
  simp [skipBlanks, advance, h, Position.after_cons]

theorem skipBlanks_of_not {c : Char} (h : Text.isBlank c = false) (cs : List Char)
    (p : Position) : skipBlanks ⟨c :: cs, p⟩ = ⟨c :: cs, p⟩ := by
  simp [skipBlanks, advance, h, Position.after_nil]

theorem step?_eq_ok {s s' : Source} {t : Placed} (h : s.step? = some (.ok t, s')) :
    ∃ c cs, s.skipBlanks.rest = c :: cs ∧
      (Scan.token s.skipBlanks.position c cs).result = .ok t.token ∧
      t.position = s.skipBlanks.position ∧
      s' = s.skipBlanks.advance (Scan.token s.skipBlanks.position c cs).lexeme := by
  unfold step? at h
  simp only at h
  split at h
  · cases h
  · rename_i c cs hrest
    obtain ⟨hresult, hs'⟩ := Prod.mk.inj (Option.some.inj h)
    refine ⟨c, cs, hrest, ?_⟩
    cases hscan : (Scan.token s.skipBlanks.position c cs).result with
    | error e =>
      rw [hscan] at hresult
      cases hresult
    | ok token =>
      rw [hscan] at hresult
      cases hresult
      exact ⟨rfl, rfl, hs'.symm⟩

theorem tokens_eq (s : Source) : s.tokens =
    match s.step? with
    | none => .ok [s.endToken]
    | some (.error e, _) => .error e
    | some (.ok t, s') =>
      match t.token with
      | .invalid text => .error (.unrecognized text t.position)
      | _ => s'.tokens.map (t :: ·) := by
  rw [tokens]
  split <;> rename_i h <;> exact h ▸ rfl

theorem tokens_blank {c : Char} (h : Text.isBlank c = true) (cs : List Char) (p : Position) :
    tokens ⟨c :: cs, p⟩ = tokens ⟨cs, p.next c⟩ := by
  have hskip := skipBlanks_cons h cs p
  have hstep : step? ⟨c :: cs, p⟩ = step? ⟨cs, p.next c⟩ := by
    simp only [step?, hskip]
  have hend : endToken ⟨c :: cs, p⟩ = endToken ⟨cs, p.next c⟩ := by
    simp only [endToken, hskip]
  rw [tokens_eq, tokens_eq ⟨cs, p.next c⟩, hstep, hend]

theorem tokens_blanks {gap : List Char} (hgap : ∀ c ∈ gap, Text.isBlank c = true)
    (cs : List Char) (p : Position) : tokens ⟨gap ++ cs, p⟩ = tokens ⟨cs, p.after gap⟩ := by
  induction gap generalizing p with
  | nil => rw [List.nil_append, Position.after_nil]
  | cons c gap ih =>
    have hrest : ∀ d ∈ gap, Text.isBlank d = true := fun d hd => hgap d (List.mem_cons_of_mem c hd)
    rw [List.cons_append, tokens_blank (hgap c List.mem_cons_self), ih hrest, Position.after_cons]

theorem tokens_nil (p : Position) : tokens ⟨[], p⟩ = .ok [⟨.eof, p⟩] := by
  rw [tokens_eq]
  rfl

theorem tokens_scans {cs rest : List Char} {t : Token} (h : Scan.Scans cs t rest)
    (ht : t.Writable) (p : Position) :
    tokens ⟨cs ++ rest, p⟩ = (tokens ⟨rest, p.after cs⟩).map (⟨t, p⟩ :: ·) := by
  obtain ⟨c, tail, rfl, hblank, htoken⟩ := h
  have hstep : step? ⟨c :: tail ++ rest, p⟩ = some (.ok ⟨t, p⟩, ⟨rest, p.after (c :: tail)⟩) := by
    rw [step?, List.cons_append, skipBlanks_of_not hblank]
    simp only [htoken, advance, List.length_cons, List.drop_succ_cons, List.drop_left]
    rfl
  rw [tokens_eq, hstep]
  cases t with
  | invalid text => exact ht.elim
  | _ => rfl

end Source

/-- Wherever a text that ends its last token stands, it adds these tokens. -/
def Reads (cs : List Char) (ts : List Token) : Prop :=
  ∀ rest p, Delimited rest → ∃ placed : List Placed, placed.map (·.token) = ts ∧
    Source.tokens ⟨cs ++ rest, p⟩ = (Source.tokens ⟨rest, p.after cs⟩).map (placed ++ ·)

namespace Reads

theorem nil : Reads [] [] := by
  intro rest p _
  refine ⟨[], rfl, ?_⟩
  rw [List.nil_append, Position.after_nil]
  cases Source.tokens ⟨rest, p⟩ <;> rfl

theorem append {cs ds : List Char} {ts us : List Token} (h : Reads cs ts) (h' : Reads ds us)
    (hjoin : ∀ rest, Delimited rest → Delimited (ds ++ rest)) :
    Reads (cs ++ ds) (ts ++ us) := by
  intro rest p hrest
  obtain ⟨placed, htokens, hread⟩ := h (ds ++ rest) p (hjoin rest hrest)
  obtain ⟨placed', htokens', hread'⟩ := h' rest (p.after cs) hrest
  refine ⟨placed ++ placed', by rw [List.map_append, htokens, htokens'], ?_⟩
  rw [List.append_assoc, hread, hread', Position.after_append]
  cases Source.tokens ⟨rest, (p.after cs).after ds⟩ with
  | error e => rfl
  | ok tokens => simp [Except.map]

theorem scans_append {lexeme cs : List Char} {t : Token} {ts : List Token} (ht : t.Writable)
    (hscan : ∀ rest, Delimited rest → Scan.Scans lexeme t (cs ++ rest)) (h : Reads cs ts) :
    Reads (lexeme ++ cs) (t :: ts) := by
  intro rest p hrest
  obtain ⟨placed, htokens, hread⟩ := h rest (p.after lexeme) hrest
  refine ⟨⟨t, p⟩ :: placed, by rw [List.map_cons, htokens], ?_⟩
  rw [List.append_assoc, Source.tokens_scans (hscan rest hrest) ht, hread, Position.after_append]
  cases Source.tokens ⟨rest, (p.after lexeme).after cs⟩ <;> rfl

theorem scans_cons {c : Char} {cs : List Char} {t : Token} {ts : List Token} (ht : t.Writable)
    (hscan : ∀ rest, Scan.Scans [c] t (cs ++ rest)) (h : Reads cs ts) :
    Reads (c :: cs) (t :: ts) :=
  scans_append ht (fun rest _ => hscan rest) h

theorem written {t : Token} (h : t.Writable) : Reads t.written [t] := by
  intro rest p hrest
  exact ⟨[⟨t, p⟩], rfl, Source.tokens_scans (h.scans hrest) h p⟩

theorem blanks {gap cs : List Char} {ts : List Token}
    (hgap : ∀ c ∈ gap, Text.isBlank c = true) (h : Reads cs ts) : Reads (gap ++ cs) ts := by
  intro rest p hrest
  obtain ⟨placed, htokens, hread⟩ := h rest (p.after gap) hrest
  refine ⟨placed, htokens, ?_⟩
  rw [List.append_assoc, Source.tokens_blanks hgap, hread, Position.after_append]

theorem blank {cs : List Char} {ts : List Token} (h : Reads cs ts) : Reads (' ' :: cs) ts := by
  have hspace : ∀ c ∈ [' '], Text.isBlank c = true := by
    intro c hc
    rw [List.mem_singleton.1 hc]
    decide
  exact h.blanks hspace

section

variable {cs ds : List Char} {ts us : List Token}

theorem negated (h : Reads cs ts) : Reads (['n', 'o', 't', ' '] ++ cs) (.not :: ts) := by
  have hnot : Reads ['n', 'o', 't'] [.not] := written trivial
  exact hnot.append h.blank fun _ _ => Delimited.cons (by decide) _

theorem inParens (h : Reads cs ts) :
    Reads ('(' :: (cs ++ [')'])) (.leftParen :: (ts ++ [.rightParen])) := by
  have hclose : Reads [')'] [.rightParen] := written trivial
  have hbody := h.append hclose fun rest _ => Delimited.cons (by decide) rest
  exact scans_cons (c := '(') trivial (fun rest => Scan.scans_symbol (by decide) rfl) hbody

theorem inBrackets (h : Reads cs ts) :
    Reads ('[' :: (cs ++ [']'])) (.leftBracket :: (ts ++ [.rightBracket])) := by
  have hclose : Reads [']'] [.rightBracket] := written trivial
  have hbody := h.append hclose fun rest _ => Delimited.cons (by decide) rest
  exact scans_cons (c := '[') trivial (fun rest => Scan.scans_symbol (by decide) rfl) hbody

theorem listed (h : Reads cs ts) (h' : Reads ds us) :
    Reads (cs ++ ',' :: ds) (ts ++ .comma :: us) := by
  have hcomma := scans_cons (c := ',') (t := .comma) trivial
    (fun rest => Scan.scans_symbol (by decide) rfl) h'
  exact h.append hcomma fun _ _ => Delimited.cons (by decide) _

end

def spaced (ts : List Token) : List Char := ts.flatMap fun t => t.written ++ [' ']

theorem spaced_reads {ts : List Token} (h : ∀ t ∈ ts, t.Writable) : Reads (spaced ts) ts := by
  induction ts with
  | nil => exact nil
  | cons t ts ih =>
    have htoken := written (h t (List.mem_cons_self ..))
    have hmore := (ih fun u hu => h u (List.mem_cons_of_mem t hu)).blank
    have hread := htoken.append hmore fun rest _ => Delimited.cons (.inl rfl) _
    rwa [show spaced (t :: ts) = t.written ++ ' ' :: spaced ts by simp [spaced]]

theorem tokenize_eq {cs : List Char} {ts : List Token} (h : Reads cs ts) :
    ∃ placed : List Placed, tokenize (String.ofList cs) = .ok placed ∧
      placed.map (·.token) = ts ++ [.eof] := by
  obtain ⟨placed, htokens, hread⟩ := h [] .start Delimited.nil
  rw [List.append_nil, Source.tokens_nil] at hread
  refine ⟨placed ++ [⟨.eof, Position.start.after cs⟩], ?_, by simp [htokens]⟩
  rw [tokenize, Source.ofText, String.toList_ofList, hread]
  rfl

end Reads

end EventRouting
