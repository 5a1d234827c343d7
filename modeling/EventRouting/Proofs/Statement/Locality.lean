import EventRouting.Proofs.Decimal.Prefix
import EventRouting.Proofs.Statement.Writing

set_option autoImplicit false

namespace EventRouting

/-- Characters that can go on with a token: with a word, a number or a pointer, with an operator,
or as the sign of an exponent. -/
def Scan.goesOn (c : Char) : Bool := isWordChar c || isPointerChar c || c = '=' || c = '+'

def Detached (rest : List Char) : Prop := ∀ c ∈ rest.head?, Scan.goesOn c = false

theorem Delimited.detached {rest : List Char} (h : Delimited rest) : Detached rest :=
  h.head_eq_false (by decide) (by decide) (by decide) (by decide)

namespace Detached

variable {rest : List Char} (h : Detached rest)

include h

theorem parts {c : Char} (hc : c ∈ rest.head?) :
    Scan.isWordChar c = false ∧ Scan.isPointerChar c = false := by
  have hgoes := h c hc
  simp only [Scan.goesOn, Bool.or_eq_false_iff] at hgoes
  exact ⟨hgoes.1.1.1, hgoes.1.1.2⟩

theorem word : ∀ c ∈ rest.head?, Scan.isWordChar c = false := fun _ hc => (h.parts hc).1

theorem pointer : ∀ c ∈ rest.head?, Scan.isPointerChar c = false := fun _ hc => (h.parts hc).2

theorem head_ne {d : Char} (hd : Scan.goesOn d = true) : ∀ c ∈ rest.head?, c ≠ d := by
  rintro c hc rfl
  rw [h c hc] at hd
  cases hd

theorem literal_ends : Decimal.Literal.Ends rest := by
  intro c hc
  refine ⟨?_, h.head_ne (by decide) c hc, h.head_ne (by decide) c hc, h.head_ne (by decide) c hc⟩
  cases hdigit : Text.isDigit c with
  | false => rfl
  | true =>
    have hword := h.word c hc
    rw [Scan.isWordChar, Text.isAlphanumeric_of_ascii (by simp [Text.isAsciiAlphanumeric, hdigit])]
      at hword
    cases hword

theorem ne_sign : ∀ c ∈ rest.head?, c ≠ '+' ∧ c ≠ '-' :=
  fun c hc => ⟨h.head_ne (by decide) c hc, h.head_ne (by decide) c hc⟩

end Detached

namespace Scan

theorem symbol?_append {c : Char} {cs rest : List Char} (hrest : Detached rest) :
    symbol? c (cs ++ rest) = symbol? c cs := by
  cases cs with
  | nil =>
    cases rest with
    | nil => rfl
    | cons d rest =>
      have hequals : d ≠ '=' := hrest.head_ne (by decide) d rfl
      have htilde : d ≠ '~' := hrest.head_ne (by decide) d rfl
      unfold symbol?
      split <;> simp_all
  | cons d cs =>
    unfold symbol?
    split <;> simp_all

theorem symbol?_length_le {c : Char} {cs : List Char} {t : Token} {n : Nat}
    (h : symbol? c cs = some (t, n)) : n ≤ (c :: cs).length := by
  unfold symbol? at h
  split at h <;> cases h <;> simp

theorem unclosed_of_quotedBody {cs body : List Char} (h : quotedBody cs = some body) :
    Unclosed body ∧ ∃ more, cs = body ++ '"' :: more := by
  induction cs using quotedBody.induct generalizing body with
  | case1 => cases h
  | case2 => cases h
  | case3 c cs ih =>
    rw [quotedBody] at h
    obtain ⟨tail, hbody, rfl⟩ := Option.map_eq_some_iff.1 h
    obtain ⟨htail, more, rfl⟩ := ih hbody
    exact ⟨(Unclosed.escaped c).append htail, more, rfl⟩
  | case4 cs hend hescape =>
    rw [quotedBody] at h
    · cases h
      exact ⟨Unclosed.nil, cs, rfl⟩
    all_goals assumption
  | case5 c cs hend hescape hquote ih =>
    have hbackslash : c ≠ '\\' := by
      rintro rfl
      cases cs with
      | nil => exact hend rfl rfl
      | cons d cs => exact hescape d cs rfl rfl
    rw [quotedBody, if_neg hquote] at h
    · obtain ⟨tail, hbody, rfl⟩ := Option.map_eq_some_iff.1 h
      obtain ⟨htail, more, rfl⟩ := ih hbody
      exact ⟨(Unclosed.single hquote hbackslash).append htail, more, rfl⟩
    all_goals assumption

section

variable (p : Position) (cs : List Char)

theorem token_slash : token p '/' cs =
    ⟨.ok (.pointer (Pointer.ofBare (cs.takeWhile isPointerChar))),
      '/' :: cs.takeWhile isPointerChar⟩ := by
  rw [token, symbol?_eq_none (by decide)]
  rfl

theorem token_quote : token p '"' cs = quoted p cs := by
  rw [token, symbol?_eq_none (by decide)]
  rfl

/-- Numbers, words and stray characters begin with none of the characters that operators,
pointers and strings begin with. -/
theorem token_plain {c : Char} (hsymbol : symbol? c cs = none) (hslash : c ≠ '/')
    (hquote : c ≠ '"') : token p c cs =
      match Decimal.Literal.scan (c :: cs) with
      | some l => number p l
      | none =>
        if isWordStart c then
          ⟨.ok (wordToken (c :: cs.takeWhile isWordChar)), c :: cs.takeWhile isWordChar⟩
        else ⟨.ok (.invalid (String.singleton c)), [c]⟩ := by
  rw [token, hsymbol]
  exact (if_neg hslash).trans (if_neg hquote)

end

theorem Outcome.eq_of_result {o : Outcome} {t : Token} (h : o.result = .ok t) :
    o = ⟨.ok t, o.lexeme⟩ := by
  rw [← h]

theorem quoted_eq_ok {p : Position} {cs : List Char} {t : Token}
    (h : (quoted p cs).result = .ok t) :
    ∃ body more, Unclosed body ∧ cs = body ++ '"' :: more ∧ t = quotedToken body := by
  unfold quoted at h
  split at h
  · rename_i body hbody
    cases h
    obtain ⟨hunclosed, more, hcs⟩ := unclosed_of_quotedBody hbody
    exact ⟨body, more, hunclosed, hcs, rfl⟩
  · cases h

theorem quoted_append {p : Position} {body : List Char} (h : Unclosed body) (more : List Char) :
    quoted p (body ++ '"' :: more) = ⟨.ok (quotedToken body), '"' :: (body ++ ['"'])⟩ := by
  rw [quoted, h.quotedBody_eq more]

theorem number_eq_ok {p : Position} {l : Decimal.Literal} {t : Token}
    (h : (number p l).result = .ok t) (q : Position) : number q l = ⟨.ok t, l.text⟩ := by
  unfold number at h ⊢
  cases ht : numberToken? l with
  | none =>
    rw [ht] at h
    cases h
  | some u =>
    rw [ht] at h
    cases h
    rfl

theorem lexeme_front (p : Position) (c : Char) (cs : List Char) :
    (token p c cs).lexeme <+: c :: cs := by
  unfold token
  split
  · exact List.take_prefix _ _
  · split
    · exact List.cons_prefix_cons.2 ⟨rfl, List.takeWhile_prefix _⟩
    · split
      · rename_i hquote
        rw [hquote, quoted]
        split
        · rename_i body hbody
          obtain ⟨-, more, rfl⟩ := unclosed_of_quotedBody hbody
          exact ⟨more, by simp⟩
        · exact List.prefix_rfl
      · split
        · rename_i l hl
          have hprefix := Decimal.Literal.text_front hl
          rw [number]
          split <;> exact hprefix
        · split
          · exact List.cons_prefix_cons.2 ⟨rfl, List.takeWhile_prefix _⟩
          · exact List.cons_prefix_cons.2 ⟨rfl, List.nil_prefix⟩

/-- A token is scanned alike wherever its text stands and whatever text that goes on with no
token is put behind. -/
theorem token_append {p q : Position} {c : Char} {cs rest : List Char} {t : Token}
    (h : (token p c cs).result = .ok t) (hrest : Detached rest) :
    token q c (cs ++ rest) = ⟨.ok t, (token p c cs).lexeme⟩ := by
  have hsymbol : symbol? c (cs ++ rest) = symbol? c cs := symbol?_append hrest
  cases hread : symbol? c cs with
  | some read =>
    have hlength : read.2 ≤ (c :: cs).length := symbol?_length_le hread
    simp only [token, hsymbol, hread] at h ⊢
    rw [h, ← List.cons_append, List.take_append_of_le_length hlength]
  | none =>
    by_cases hslash : c = '/'
    · subst hslash
      have hrun := (Text.takeWhile_append_of_stop hrest.pointer cs).1
      rw [token_slash] at h ⊢
      rw [token_slash, hrun]
      exact Outcome.eq_of_result h
    · by_cases hquote : c = '"'
      · subst hquote
        rw [token_quote] at h ⊢
        obtain ⟨body, more, hunclosed, rfl, rfl⟩ := quoted_eq_ok h
        rw [token_quote, List.append_assoc, quoted_append hunclosed, List.cons_append,
          quoted_append hunclosed]
      · have hscan := Decimal.Literal.scan_append hrest.literal_ends hrest.ne_sign (c :: cs)
        have hrun := (Text.takeWhile_append_of_stop hrest.word cs).1
        rw [List.cons_append] at hscan
        rw [token_plain p cs hread hslash hquote] at h ⊢
        rw [token_plain q _ (hsymbol.trans hread) hslash hquote, hscan, hrun]
        cases hliteral : Decimal.Literal.scan (c :: cs) with
        | some l =>
          rw [hliteral] at h
          simp only [number_eq_ok h]
        | none =>
          rw [hliteral] at h
          exact Outcome.eq_of_result h

end Scan

namespace Source

theorem skipBlanks_rest (s : Source) : s.skipBlanks.rest = s.rest.dropWhile Text.isBlank := by
  have hdrop := congrArg (List.drop (s.rest.takeWhile Text.isBlank).length)
    (List.takeWhile_append_dropWhile (p := Text.isBlank) (l := s.rest))
  rw [List.drop_left] at hdrop
  exact hdrop.symm

theorem skipBlanks_split (s : Source) :
    ∃ blanks, (∀ c ∈ blanks, Text.isBlank c = true) ∧ s.rest = blanks ++ s.skipBlanks.rest ∧
      ∀ c ∈ s.skipBlanks.rest.head?, Text.isBlank c = false := by
  refine ⟨s.rest.takeWhile Text.isBlank, ?_, ?_, ?_⟩
  · exact List.all_eq_true.1 List.all_takeWhile
  · rw [skipBlanks_rest, List.takeWhile_append_dropWhile]
  · intro c hc
    rw [skipBlanks_rest] at hc
    have hhead := List.head?_dropWhile_not Text.isBlank s.rest
    rw [Option.mem_def.1 hc] at hhead
    exact hhead

theorem step?_eq_none {s : Source} (h : s.step? = none) : s.skipBlanks.rest = [] := by
  unfold step? at h
  simp only at h
  split at h
  · assumption
  · cases h

theorem step?_scans {s s' : Source} {t : Placed} (h : s.step? = some (.ok t, s')) :
    ∃ lexeme, s.skipBlanks = ⟨lexeme ++ s'.rest, t.position⟩ ∧
      s'.position = t.position.after lexeme ∧
      ∀ rest, Detached rest → Scan.Scans lexeme t.token (s'.rest ++ rest) := by
  obtain ⟨-, -, -, hblank⟩ := s.skipBlanks_split
  obtain ⟨c, cs, hrest, hresult, hposition, rfl⟩ := step?_eq_ok h
  obtain ⟨more, hmore⟩ := Scan.lexeme_front s.skipBlanks.position c cs
  have hne := Scan.lexeme_ne_nil s.skipBlanks.position c cs
  obtain ⟨d, tail, hlexeme⟩ := List.exists_cons_of_ne_nil hne
  have hbehind : (s.skipBlanks.advance (Scan.token s.skipBlanks.position c cs).lexeme).rest =
      more := by
    rw [advance, hrest, ← hmore, List.drop_left]
  rw [hbehind, hposition]
  rw [hlexeme, List.cons_append] at hmore
  obtain ⟨rfl, rfl⟩ := List.cons.inj hmore
  refine ⟨d :: tail, ?_, by rw [← hlexeme]; rfl, fun rest hdetached => ?_⟩
  · rw [List.cons_append, ← hrest]
  · rw [hrest] at hblank
    refine ⟨d, tail, rfl, hblank d rfl, fun p => ?_⟩
    have hscan := Scan.token_append (q := p) hresult hdetached
    rw [hlexeme, List.append_assoc] at hscan
    exact hscan

theorem reads_of_tokens {s : Source} {placed : List Placed} (h : s.tokens = .ok placed) :
    ∃ ts, placed.map (·.token) = ts ++ [.eof] ∧ Token.eof ∉ ts ∧ Reads s.rest ts := by
  refine tokens_induction (motive := fun s placed =>
    ∃ ts, placed.map (·.token) = ts ++ [.eof] ∧ Token.eof ∉ ts ∧ Reads s.rest ts) ?done ?more h
  case done =>
    intro s hstep
    obtain ⟨gap, hgap, hrest, -⟩ := s.skipBlanks_split
    rw [hrest, step?_eq_none hstep]
    exact ⟨[], rfl, List.not_mem_nil, Reads.nil.blanks hgap⟩
  case more =>
    intro s t s' others hstep hwritable ih
    obtain ⟨gap, hgap, hrest, -⟩ := s.skipBlanks_split
    obtain ⟨lexeme, hlexeme, -, hscans⟩ := step?_scans hstep
    obtain ⟨ts, hts, heof, hreads⟩ := ih
    have hne : Token.eof ≠ t.token := by
      intro ht
      rw [← ht] at hwritable
      exact hwritable
    refine ⟨t.token :: ts, by rw [List.map_cons, hts]; rfl, ?_, ?_⟩
    · exact fun hmem => (List.mem_cons.1 hmem).elim hne heof
    · have hread := Reads.scans_append hwritable (fun rest h => hscans rest h.detached) hreads
      rw [hrest, hlexeme]
      exact hread.blanks hgap

end Source

end EventRouting
