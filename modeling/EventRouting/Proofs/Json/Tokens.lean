import Mathlib.Data.Option.Basic
import EventRouting.Json.Document
import EventRouting.Proofs.Decimal.Prefix

set_option autoImplicit false

namespace EventRouting.JsonToken

theorem pieces?_plain {c : Char} (hquote : c ≠ '"') (hescape : c ≠ '\\') (rest : List Char) :
    pieces? (c :: rest) = do
      guard (0x20 ≤ c.toNat)
      let (pieces, length) ← pieces? rest
      return (.char c :: pieces, length + 1) := by
  rw [pieces?]
  · exact hquote
  · rintro _ _ _ _ _ rfl
    exact absurd rfl hescape
  · rintro _ _ rfl
    exact absurd rfl hescape

theorem pieces?_append {cs : List Char} {pieces : List JsonPiece} {length : Nat}
    (h : pieces? cs = some (pieces, length)) (rest : List Char) :
    length ≤ cs.length ∧ pieces? (cs ++ rest) = some (pieces, length) := by
  fun_induction pieces? cs generalizing pieces length with
  | case1 => cases h
  | case2 behind =>
    cases h
    simp [pieces?]
  | case3 a b c d behind ih =>
    simp only [Option.bind_eq_bind, Option.bind_eq_some_iff] at h
    obtain ⟨code, hcode, ⟨more, n⟩, hmore, ⟨⟩⟩ := h
    obtain ⟨hle, happend⟩ := ih hmore
    refine ⟨by simpa using hle, ?_⟩
    simp [pieces?, hcode, happend]
  | case4 c behind hunit ih =>
    simp only [Option.bind_eq_bind, Option.bind_eq_some_iff] at h
    obtain ⟨c', hc, ⟨more, n⟩, hmore, ⟨⟩⟩ := h
    obtain ⟨hle, happend⟩ := ih hmore
    have hu : c ≠ 'u' := by
      rintro rfl
      cases hc
    refine ⟨by simpa using hle, ?_⟩
    simp [pieces?, hu, hc, happend]
  | case5 c behind hquote hunit hescape ih =>
    obtain ⟨_, hguard, h⟩ := Option.bind_eq_some_iff.1 h
    obtain ⟨⟨more, n⟩, hmore, ⟨⟩⟩ := Option.bind_eq_some_iff.1 h
    obtain ⟨hle, happend⟩ := ih hmore
    have hbackslash : c ≠ '\\' := by
      rintro rfl
      cases behind with
      | nil => cases hmore
      | cons d behind => exact hescape d behind rfl rfl
    refine ⟨by simpa using hle, ?_⟩
    rw [List.cons_append, pieces?_plain hquote hbackslash, hguard, happend]
    rfl

/-- A carriage return must be escaped, so a string goes on behind none. -/
theorem pieces?_append_return (cs : List Char) : pieces? (cs ++ ['\r']) = pieces? cs := by
  fun_induction pieces? cs with
  | case1 => decide
  | case2 behind => simp [pieces?]
  | case3 a b c d behind ih => simp [pieces?, ih]
  | case4 c behind hunit ih =>
    by_cases hu : c = 'u'
    · subst hu
      match behind with
      | [] | [_] | [_, _] => simp [pieces?, shortEscape?]
      | [a, b, c] => simp [pieces?, shortEscape?, unit?, Text.hexDigit?, Text.isDigit]
      | a :: b :: c :: d :: behind => exact (hunit a b c d behind rfl rfl).elim
    · simp [pieces?, hu, ih]
  | case5 c behind hquote hunit hescape ih =>
    by_cases hbackslash : c = '\\'
    · cases behind with
      | nil =>
        subst hbackslash
        rfl
      | cons d behind => exact (hescape d behind hbackslash rfl).elim
    · rw [List.cons_append, pieces?_plain hquote hbackslash, ih]

theorem scan_head {c : Char} {cs : List Char} {l : Decimal.Literal}
    (h : Decimal.Literal.scan (c :: cs) = some l) : c = '-' ∨ Text.isDigit c = true := by
  unfold Decimal.Literal.scan at h
  split at h
  · rename_i heq
    cases heq
    exact .inl rfl
  · right
    cases hc : Text.isDigit c with
    | true => rfl
    | false => simp [Decimal.Literal.scanUnsigned, hc] at h

theorem scan?_number {c : Char} (hc : c = '-' ∨ Text.isDigit c = true) (cs : List Char) :
    scan? c cs = do
      let literal ← Decimal.Literal.scan (c :: cs)
      guard (isJsonNumber literal)
      return (.scalar (.number literal), literal.text.length - 1) := by
  unfold scan?
  split
  case h_11 => rfl
  all_goals exact absurd hc (by decide)

section

variable {rest : List Char} (hends : Decimal.Literal.Ends rest)
  (hsign : ∀ d ∈ rest.head?, d ≠ '+' ∧ d ≠ '-')

include hends hsign

theorem scan?_append {c : Char} {cs : List Char} {t : JsonToken} {length : Nat}
    (h : scan? c cs = some (t, length)) :
    length ≤ cs.length ∧ scan? c (cs ++ rest) = some (t, length) := by
  unfold scan? at h
  split at h
  case h_7 => -- a string
    simp only [Option.map_eq_some_iff] at h
    obtain ⟨⟨pieces, n⟩, hpieces, ⟨⟩⟩ := h
    obtain ⟨hle, happend⟩ := pieces?_append hpieces rest
    exact ⟨hle, by simp [scan?, happend]⟩
  case h_11 => -- a number
    obtain ⟨l, hl, h⟩ := Option.bind_eq_some_iff.1 h
    obtain ⟨_, hguard, ⟨⟩⟩ := Option.bind_eq_some_iff.1 h
    have hfront := (Decimal.Literal.text_front hl).length_le
    refine ⟨by simpa using hfront, ?_⟩
    rw [scan?_number (scan_head hl), ← List.cons_append,
      Decimal.Literal.scan_append hends hsign, hl]
    change ((guard (isJsonNumber l = true) : Option Unit) >>= fun _ => _) = _
    rw [hguard]
    rfl
  all_goals -- a word or a single character
    cases h
    exact ⟨by simp, rfl⟩

end

theorem ends_return : Decimal.Literal.Ends ['\r'] := by
  rintro c ⟨⟩
  decide

theorem sign_return : ∀ d ∈ (['\r'] : List Char).head?, d ≠ '+' ∧ d ≠ '-' := by
  rintro d ⟨⟩
  decide

theorem word_of_append_return (word : List Char) {cs behind : List Char} (hword : '\r' ∉ word)
    (h : cs ++ ['\r'] = word ++ behind) : ∃ behind', cs = word ++ behind' := by
  have hfront : word <+: cs ++ ['\r'] := ⟨behind, h.symm⟩
  rcases List.prefix_concat_iff.1 hfront with rfl | ⟨behind', hcs⟩
  · simp at hword
  · exact ⟨behind', hcs.symm⟩

theorem scan?_append_return (c : Char) (cs : List Char) :
    scan? c (cs ++ ['\r']) = scan? c cs := by
  cases h : scan? c (cs ++ ['\r']) with
  | none =>
    cases h' : scan? c cs with
    | none => rfl
    | some r =>
      rw [(scan?_append ends_return sign_return h').2] at h
      cases h
  | some r =>
    rw [← h]
    unfold scan? at h
    split at h
    case h_7 => simp only [scan?, pieces?_append_return]
    case h_8 heq =>
      obtain ⟨behind, rfl⟩ := word_of_append_return ['u', 'l', 'l'] (by decide) heq
      rfl
    case h_9 heq =>
      obtain ⟨behind, rfl⟩ := word_of_append_return ['r', 'u', 'e'] (by decide) heq
      rfl
    case h_10 heq =>
      obtain ⟨behind, rfl⟩ := word_of_append_return ['a', 'l', 's', 'e'] (by decide) heq
      rfl
    case h_11 =>
      obtain ⟨l, hl, -⟩ := Option.bind_eq_some_iff.1 h
      have hc := scan_head hl
      rw [scan?_number hc, scan?_number hc, ← List.cons_append,
        Decimal.Literal.scan_append ends_return sign_return]
    all_goals rfl

theorem tokens?_space {c : Char} (hc : isSpace c = true) (cs : List Char) :
    tokens? (c :: cs) = tokens? cs := by
  rw [tokens?, if_pos hc]

theorem tokens?_token {c : Char} (hc : isSpace c = false) {cs : List Char} {t : JsonToken}
    {length : Nat} (h : scan? c cs = some (t, length)) :
    tokens? (c :: cs) = (tokens? (cs.drop length)).map (t :: ·) := by
  rw [tokens?, if_neg (by simp [hc]), h]

theorem tokens?_append {rest : List Char} (hends : Decimal.Literal.Ends rest)
    (hsign : ∀ d ∈ rest.head?, d ≠ '+' ∧ d ≠ '-') {cs : List Char} {ts : List JsonToken}
    (h : tokens? cs = some ts) : tokens? (cs ++ rest) = (tokens? rest).map (ts ++ ·) := by
  fun_induction tokens? cs generalizing ts with
  | case1 =>
    cases h
    simp
  | case2 c cs hspace ih => rw [List.cons_append, tokens?_space hspace, ih h]
  | case3 c cs hspace hscan => cases h
  | case4 c cs hspace t length hscan ih =>
    obtain ⟨more, hmore, rfl⟩ := Option.map_eq_some_iff.1 h
    obtain ⟨hlength, happend⟩ := scan?_append hends hsign hscan
    rw [List.cons_append, tokens?_token (by simpa using hspace) happend,
      List.drop_append_of_le_length hlength, ih hmore, Option.map_map]
    rfl

/-- A carriage return behind a text is blank, and ends nothing that goes on without it. -/
theorem tokens?_append_return (cs : List Char) : tokens? (cs ++ ['\r']) = tokens? cs := by
  fun_induction tokens? cs with
  | case1 => rw [List.nil_append, tokens?_space (by decide), tokens?]
  | case2 c cs hspace ih => rw [List.cons_append, tokens?_space hspace, ih]
  | case3 c cs hspace hscan =>
    rw [List.cons_append, tokens?, if_neg hspace, scan?_append_return, hscan]
  | case4 c cs hspace t length hscan ih =>
    obtain ⟨hlength, happend⟩ := scan?_append ends_return sign_return hscan
    rw [List.cons_append, tokens?_token (by simpa using hspace) happend,
      List.drop_append_of_le_length hlength, ih]

theorem tokens?_first {cs : List Char} {t : JsonToken} {ts : List JsonToken}
    (h : tokens? cs = some (t :: ts)) :
    ∃ c behind length, cs.dropWhile isSpace = c :: behind ∧ scan? c behind = some (t, length) := by
  fun_induction tokens? cs with
  | case1 => cases h
  | case2 c cs hspace ih =>
    rw [List.dropWhile_cons_of_pos hspace]
    exact ih h
  | case3 c cs hspace hscan => cases h
  | case4 c cs hspace t' length hscan ih =>
    obtain ⟨more, hmore, ⟨⟩⟩ := Option.map_eq_some_iff.1 h
    exact ⟨c, cs, length, List.dropWhile_cons_of_neg hspace, hscan⟩

end EventRouting.JsonToken
