import Mathlib.Data.List.DropRight
import EventRouting.Event
import EventRouting.Proofs.Statement.Concatenation
import EventRouting.Proofs.Statement.Pointers

set_option autoImplicit false

namespace EventRouting

namespace Text

def trimBlanks (text : String) : String :=
  String.ofList ((text.toList.dropWhile isBlank).rdropWhile isBlank)

theorem rdropWhile_append {f : Char → Bool} {cs rest : List Char} (h : ∀ c ∈ rest, f c = true)
    (hcs : ∀ c ∈ cs.getLast?, f c = false) : (cs ++ rest).rdropWhile f = cs := by
  have hreversed : ∀ c ∈ rest.reverse, f c = true := fun c hc => h c (List.mem_reverse.1 hc)
  have hhead : ∀ c ∈ cs.reverse.head?, f c = false := by
    rw [List.head?_reverse]
    exact hcs
  rw [List.rdropWhile, List.reverse_append, (takeWhile_append hreversed hhead).2,
    List.reverse_reverse]

/-- What stands between blanks, and neither begins nor ends with one, is what trimming leaves. -/
theorem trimBlanks_between {text : String} {before body behind : List Char}
    (htext : text.toList = before ++ (body ++ behind)) (hne : body ≠ [])
    (hbefore : ∀ c ∈ before, isBlank c = true) (hbehind : ∀ c ∈ behind, isBlank c = true)
    (hfirst : ∀ c ∈ body.head?, isBlank c = false)
    (hlast : ∀ c ∈ body.getLast?, isBlank c = false) : trimBlanks text = String.ofList body := by
  have hhead : ∀ c ∈ (body ++ behind).head?, isBlank c = false := by
    rwa [List.head?_append_of_ne_nil _ hne]
  rw [trimBlanks, htext, (takeWhile_append hbefore hhead).2, rdropWhile_append hbehind hlast]

end Text

namespace Scan

/-- The texts that a pointer is scanned from. -/
inductive PointerText : List Char → Pointer → Prop
  | bare {body : List Char} (h : ∀ c ∈ body, isPointerChar c = true) :
    PointerText ('/' :: body) (.ofBare body)
  | quoted {body : List Char} {p : Pointer} (h : quotedToken body = .pointer p) :
    PointerText ('"' :: (body ++ ['"'])) p

theorem symbol?_ne_pointer {c : Char} {cs : List Char} {p : Pointer} {n : Nat} :
    symbol? c cs ≠ some (.pointer p, n) := by
  unfold symbol?
  split <;> simp

theorem numberToken?_ne_pointer {l : Decimal.Literal} {p : Pointer} :
    numberToken? l ≠ some (.pointer p) := by
  unfold numberToken?
  split
  · simp
  · split <;> simp

theorem wordToken_ne_pointer {word : List Char} {p : Pointer} : wordToken word ≠ .pointer p := by
  unfold wordToken
  split <;> simp

theorem pointerText_of_token {q : Position} {c : Char} {cs : List Char} {p : Pointer}
    (h : (token q c cs).result = .ok (.pointer p)) : PointerText (token q c cs).lexeme p := by
  by_cases hslash : c = '/'
  · subst hslash
    rw [token_slash] at h ⊢
    cases h
    exact .bare (List.all_eq_true.1 List.all_takeWhile)
  · by_cases hquote : c = '"'
    · subst hquote
      rw [token_quote] at h ⊢
      obtain ⟨body, more, hunclosed, rfl, hbody⟩ := quoted_eq_ok h
      rw [quoted_append hunclosed]
      exact .quoted hbody.symm
    · cases hsymbol : symbol? c cs with
      | some read =>
        obtain ⟨t, n⟩ := read
        simp only [token, hsymbol] at h
        cases h
        exact absurd hsymbol symbol?_ne_pointer
      | none =>
        rw [token_plain q cs hsymbol hslash hquote] at h
        split at h
        · rename_i l _
          unfold number at h
          split at h
          · rename_i hnumber
            cases h
            exact absurd hnumber numberToken?_ne_pointer
          · cases h
        · split at h
          · exact absurd (Except.ok.inj h) wordToken_ne_pointer
          · cases h

theorem isBlank_of_isPointerChar {c : Char} (h : isPointerChar c = true) :
    Text.isBlank c = false := by
  cases hblank : Text.isBlank c with
  | false => rfl
  | true =>
    have hdetached : Detached [c] := .of_blank fun d hd => by
      obtain rfl : c = d := by simpa using hd
      exact hblank
    rw [hdetached.pointer c rfl] at h
    cases h

namespace PointerText

variable {cs : List Char} {p : Pointer} (h : PointerText cs p)

include h

theorem ne_nil : cs ≠ [] := by
  cases h <;> simp

theorem head_not_blank : ∀ c ∈ cs.head?, Text.isBlank c = false := by
  cases h <;> · rintro c ⟨⟩; decide

theorem getLast_not_blank : ∀ c ∈ cs.getLast?, Text.isBlank c = false := by
  cases h with
  | bare hbody =>
    intro c hc
    refine isBlank_of_isPointerChar ?_
    rcases List.mem_cons.1 (List.mem_of_getLast? hc) with rfl | hmem
    · rfl
    · exact hbody c hmem
  | quoted _ =>
    intro c hc
    rw [← List.cons_append, List.getLast?_concat] at hc
    cases hc
    decide

theorem parse_eq : Pointer.parse (String.ofList cs) = .ok p := by
  rw [Pointer.parse, String.toList_ofList]
  cases h with
  | bare hbody => exact Pointer.ofEscaped_bare hbody
  | quoted htoken =>
    rw [Pointer.stripQuotes_quoted]
    exact Pointer.ofEscaped_of_quotedToken htoken

end PointerText
end Scan

namespace Source

theorem exists_step_of_tokens {s : Source} {t : Placed} {others : List Placed}
    (h : s.tokens = .ok (t :: others)) (ht : t.token ≠ .eof) :
    ∃ s', s.step? = some (.ok t, s') ∧ s'.tokens = .ok others := by
  rw [tokens_eq] at h
  split at h
  · cases h
    exact absurd rfl ht
  · cases h
  · rename_i u s' hstep
    split at h
    · cases h
    · cases hrest : s'.tokens with
      | error e =>
        rw [hrest] at h
        cases h
      | ok more =>
        rw [hrest] at h
        cases h
        exact ⟨s', hstep, hrest⟩

theorem blank_of_tokens {s : Source} {placed : List Placed} (h : s.tokens = .ok placed) :
    placed.map (·.token) = [.eof] → ∀ c ∈ s.rest, Text.isBlank c = true := by
  refine tokens_induction (motive := fun s placed =>
    placed.map (·.token) = [.eof] → ∀ c ∈ s.rest, Text.isBlank c = true) ?done ?more h
  case done =>
    intro s hstep _
    obtain ⟨gap, hgap, hrest, -⟩ := s.skipBlanks_split
    rw [step?_eq_none hstep, List.append_nil] at hrest
    exact hrest ▸ hgap
  case more =>
    intro s t s' others _ hwritable _ htokens
    have ht : t.token = .eof := (List.cons.inj htokens).1
    rw [ht] at hwritable
    exact hwritable.elim

theorem pointerText_of_tokens {s : Source} {placed : List Placed} {p : Pointer}
    (h : s.tokens = .ok placed) (hp : placed.map (·.token) = [.pointer p, .eof]) :
    ∃ before body behind, s.rest = before ++ (body ++ behind) ∧ Scan.PointerText body p ∧
      (∀ c ∈ before, Text.isBlank c = true) ∧ ∀ c ∈ behind, Text.isBlank c = true := by
  obtain ⟨t, others, rfl, ht, hothers⟩ := List.map_eq_cons_iff.1 hp
  obtain ⟨s', hstep, hs'⟩ := exists_step_of_tokens h (by simp [ht])
  obtain ⟨gap, hgap, hrest, -⟩ := s.skipBlanks_split
  obtain ⟨c, cs, hcs, hresult, -, hadvance⟩ := step?_eq_ok hstep
  obtain ⟨behind, hbehind⟩ := Scan.lexeme_front s.skipBlanks.position c cs
  have hleft : s'.rest = behind := by
    rw [hadvance, advance, hcs, ← hbehind, List.drop_left]
  rw [ht] at hresult
  refine ⟨gap, _, behind, ?_, Scan.pointerText_of_token hresult, hgap, ?_⟩
  · rw [hbehind, ← hcs]
    exact hrest
  · rw [← hleft]
    exact blank_of_tokens hs' hothers

end Source

/-- A text that is scanned as one pointer is, without the blanks around it, read by `Pointer.parse`
as the same pointer, which has a segment. So every event has the same field under this name. -/
theorem Pointer.parse_of_tokenize {text : String} {placed : List Placed} {p : Pointer}
    (h : tokenize text = .ok placed) (hp : placed.map (·.token) = [.pointer p, .eof]) :
    Pointer.parse (Text.trimBlanks text) = .ok p ∧ p.segments ≠ [] ∧
      ∀ event : Event, event.getPath? (Text.trimBlanks text) = .ok (event.get? p) := by
  obtain ⟨before, body, behind, hrest, hbody, hbefore, hbehind⟩ :=
    Source.pointerText_of_tokens h hp
  have hparse : Pointer.parse (Text.trimBlanks text) = .ok p := by
    rw [Text.trimBlanks_between hrest hbody.ne_nil hbefore hbehind hbody.head_not_blank
      hbody.getLast_not_blank]
    exact hbody.parse_eq
  refine ⟨hparse, Pointer.segments_ne_nil_of_parse hparse, fun event => ?_⟩
  rw [Event.getPath?, hparse]
  rfl

theorem Pointer.parse_of_tokenize_quoted :
    let text := "\u3000\r\n\"//a\\\" \\d/b\\\\\"\t "
    let p : Pointer := ⟨["", "a\" \\d", "b\\"]⟩
    tokenize text = .ok [⟨.pointer p, ⟨3, 2, 1⟩⟩, ⟨.eof, ⟨19, 2, 17⟩⟩] ∧
      Pointer.parse (Text.trimBlanks text) = .ok p ∧
      Event.getPath? ⟨[("", .null)]⟩ (Text.trimBlanks text) = .ok none := by
  intro text p
  have h : tokenize text = .ok [⟨.pointer p, ⟨3, 2, 1⟩⟩, ⟨.eof, ⟨19, 2, 17⟩⟩] := by
    decide +kernel
  obtain ⟨hparse, -, hevent⟩ := Pointer.parse_of_tokenize h rfl
  exact ⟨h, hparse, hevent _⟩

end EventRouting
