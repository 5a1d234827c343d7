import EventRouting.Proofs.Statement.Writing

set_option autoImplicit false

namespace EventRouting

namespace Pointer

/-- Where no backslash stands, there is no escape to resolve. -/
theorem splitEscaped_eq_splitSlashes {cs : List Char} (h : '\\' ∉ cs) :
    splitEscaped cs = splitSlashes cs := by
  induction cs with
  | nil => rfl
  | cons c cs ih =>
    simp only [List.mem_cons, not_or] at h
    have hbackslash : c ≠ '\\' := Ne.symm h.1
    by_cases hslash : c = '/'
    · subst hslash
      rw [splitEscaped, splitSlashes, if_pos rfl, ih h.2]
    · simp [splitEscaped, splitSlashes, hslash, hbackslash, ih h.2]

theorem stripQuotes_quoted (body : List Char) : stripQuotes ('"' :: (body ++ ['"'])) = body := by
  simp [stripQuotes]

theorem ofEscaped_of_quotedToken {body : List Char} {p : Pointer}
    (h : Scan.quotedToken body = .pointer p) : ofEscaped body = .ok p := by
  unfold Scan.quotedToken at h
  split at h
  · rename_i q hq
    rw [hq, Token.pointer.inj h]
  · cases h

theorem ofEscaped_bare {body : List Char} (h : ∀ c ∈ body, Scan.isPointerChar c = true) :
    ofEscaped ('/' :: body) = .ok (ofBare body) := by
  have hbackslash : '\\' ∉ body := by
    intro hmem
    exact absurd (h _ hmem) (by decide)
  rw [ofEscaped, ofBare, splitEscaped_eq_splitSlashes hbackslash]

section

variable {p : Pointer} (h : p.segments ≠ [])

include h

theorem parse_toText : parse p.toText = .ok p := by
  rw [parse, toText, String.toList_ofList]
  cases hbare : p.isBare with
  | true =>
    obtain ⟨body, hchars, hbody, hpointer⟩ := bare_chars h hbare
    have hstrip : stripQuotes ('/' :: body) = '/' :: body := rfl
    rw [hchars, hstrip, ofEscaped_bare hbody, hpointer]
  | false =>
    obtain ⟨body, hchars, -, htoken⟩ := quoted_chars h hbare
    rw [hchars, stripQuotes_quoted, ofEscaped_of_quotedToken htoken]

theorem tokenize_toText : tokenize p.toText =
    .ok [⟨.pointer p, .start⟩, ⟨.eof, Position.start.after p.toChars⟩] := by
  have hscan := Scan.scans_pointer h Delimited.nil
  have htokens := Source.tokens_scans hscan h .start
  rw [List.append_nil, Source.tokens_nil] at htokens
  rw [tokenize, Source.ofText, toText, String.toList_ofList, htokens]
  rfl

theorem normalize_toText : normalize p.toText = .ok p.toText := by
  rw [normalize, parse_toText h]
  rfl

end

theorem toText_inj {p q : Pointer} (hp : p.segments ≠ []) (hq : q.segments ≠ []) :
    p.toText = q.toText ↔ p = q := by
  constructor
  · intro htext
    have hparse := parse_toText hp
    rw [htext, parse_toText hq] at hparse
    exact (Except.ok.inj hparse).symm
  · rintro rfl
    rfl

section

variable {text : String} {p : Pointer} (h : parse text = .ok p)

include h

theorem segments_ne_nil_of_parse : p.segments ≠ [] := segments_ne_nil_of_ofEscaped h

theorem normalize_of_parse : normalize text = .ok p.toText := by
  rw [normalize, h]
  rfl

end

/-- A pointer's text is read back, alone and as a statement's only token. Normalizing a pointer's
text twice is normalizing it once, and gives the same text for the same segments only. -/
theorem toText_reads_back :
    (∀ p : Pointer, p.segments ≠ [] →
      parse p.toText = .ok p ∧
      tokenize p.toText =
        .ok [⟨.pointer p, .start⟩, ⟨.eof, Position.start.after p.toChars⟩]) ∧
    ∀ (t u : String) (p q : Pointer), parse t = .ok p → parse u = .ok q →
      (∃ normal, normalize t = .ok normal ∧ normalize normal = .ok normal) ∧
      (normalize t = normalize u ↔ p.segments = q.segments) := by
  constructor
  · intro p hp
    exact ⟨parse_toText hp, tokenize_toText hp⟩
  · intro t u p q ht hu
    have hp := segments_ne_nil_of_parse ht
    have hq := segments_ne_nil_of_parse hu
    refine ⟨⟨p.toText, normalize_of_parse ht, normalize_toText hp⟩, ?_⟩
    calc normalize t = normalize u
      _ ↔ Except.ok p.toText = (Except.ok q.toText : Except PointerError String) := by
        rw [normalize_of_parse ht, normalize_of_parse hu]
      _ ↔ p.toText = q.toText := by rw [Except.ok.injEq]
      _ ↔ p = q := toText_inj hp hq
      _ ↔ p.segments = q.segments := (mk.injEq p.segments q.segments).to_iff

theorem toText_reads_back_escapes :
    let p : Pointer := ⟨["", "a/b", "c\\", "d\"\n"]⟩
    let q : Pointer := ⟨["a\\db"]⟩
    (p.segments ≠ [] ∧ parse p.toText = .ok p ∧
      tokenize p.toText =
        .ok [⟨.pointer p, .start⟩, ⟨.eof, Position.start.after p.toChars⟩]) ∧
    parse "\"/a\\db\"" = .ok q ∧ parse "/a\\db" = .ok q ∧
      normalize "\"/a\\db\"" = normalize "/a\\db" := by
  intro p q
  have hp : p.segments ≠ [] := by simp [p]
  have hquoted : parse "\"/a\\db\"" = .ok q := rfl
  have hplain : parse "/a\\db" = .ok q := rfl
  exact ⟨⟨hp, toText_reads_back.1 p hp⟩, hquoted, hplain,
    (toText_reads_back.2 _ _ q q hquoted hplain).2.2 rfl⟩

end Pointer
end EventRouting
