import EventRouting.Statement.Canonical
import EventRouting.Statement.Scan

set_option autoImplicit false

namespace EventRouting

namespace Scan

/-- Text in which each quote stands behind a backslash, and each backslash in front of a
character, so that the quoted body goes on behind it. -/
def Unclosed (body : List Char) : Prop :=
  ∀ rest, quotedBody (body ++ rest) = (quotedBody rest).map (body ++ ·)

namespace Unclosed

theorem nil : Unclosed [] := by
  intro rest
  simp

theorem append {body more : List Char} (h : Unclosed body) (h' : Unclosed more) :
    Unclosed (body ++ more) := by
  intro rest
  rw [List.append_assoc, h, h', Option.map_map]
  congr 1
  funext tail
  exact (List.append_assoc body more tail).symm

theorem flatMap {f : Char → List Char} (h : ∀ c, Unclosed (f c)) (cs : List Char) :
    Unclosed (cs.flatMap f) := by
  induction cs with
  | nil => exact nil
  | cons c cs ih => exact (h c).append ih

theorem escaped (c : Char) : Unclosed ['\\', c] := by
  intro rest
  simp [quotedBody]

theorem single {c : Char} (hquote : c ≠ '"') (hbackslash : c ≠ '\\') : Unclosed [c] := by
  intro rest
  simp [quotedBody, hquote, hbackslash]

theorem quotedBody_eq {body : List Char} (h : Unclosed body) (rest : List Char) :
    quotedBody (body ++ '"' :: rest) = some body := by
  rw [h]
  simp [quotedBody]

end Unclosed

theorem unclosed_escapeChar (c : Char) : Unclosed (Expr.escapeChar c) := by
  unfold Expr.escapeChar
  split
  · exact Unclosed.escaped _
  · exact Unclosed.escaped _
  · exact Unclosed.escaped _
  · exact Unclosed.escaped _
  · exact Unclosed.escaped _
  · exact Unclosed.single ‹_› ‹_›

theorem unclosed_escapeBody (cs : List Char) : Unclosed (Expr.escapeBody cs) := by
  unfold Expr.escapeBody
  split
  · exact (Unclosed.escaped '/').append (Unclosed.flatMap unclosed_escapeChar _)
  · exact Unclosed.flatMap unclosed_escapeChar _

theorem unescape_cons {c : Char} (h : c ≠ '\\') (cs : List Char) :
    unescape (c :: cs) = c :: unescape cs := by
  simp [unescape, h]

theorem unescape_escapeChar (c : Char) (cs : List Char) :
    unescape (Expr.escapeChar c ++ cs) = c :: unescape cs := by
  unfold Expr.escapeChar
  split
  · rfl
  · rfl
  · rfl
  · rfl
  · rfl
  · exact unescape_cons ‹_› cs

theorem unescape_flatMap (cs : List Char) : unescape (cs.flatMap Expr.escapeChar) = cs := by
  induction cs with
  | nil => rfl
  | cons c cs ih => rw [List.flatMap_cons, unescape_escapeChar, ih]

theorem unescape_escapeBody (cs : List Char) : unescape (Expr.escapeBody cs) = cs := by
  unfold Expr.escapeBody
  split
  · rename_i rest
    show '/' :: unescape (rest.flatMap Expr.escapeChar) = _
    rw [unescape_flatMap]
  · exact unescape_flatMap cs

theorem escapeBody_ne_slash (cs tail : List Char) : Expr.escapeBody cs ≠ '/' :: tail := by
  unfold Expr.escapeBody
  split
  · simp
  · rename_i hslash
    cases cs with
    | nil => simp
    | cons c cs =>
      have hc : c ≠ '/' := fun h => hslash cs (by rw [h])
      rw [List.flatMap_cons]
      unfold Expr.escapeChar
      split <;> simp_all

theorem quotedToken_escapeBody (s : String) :
    quotedToken (Expr.escapeBody s.toList) = .string s := by
  have hpointer : Pointer.ofEscaped (Expr.escapeBody s.toList) =
      .error (.missingLeadingSlash (String.ofList (Expr.escapeBody s.toList))) := by
    unfold Pointer.ofEscaped
    split
    · rename_i tail heq
      exact absurd heq (escapeBody_ne_slash s.toList tail)
    · rfl
  rw [quotedToken, hpointer]
  show Token.string (String.ofList (unescape (Expr.escapeBody s.toList))) = .string s
  rw [unescape_escapeBody, String.ofList_toList]

end Scan

namespace Pointer

theorem foldr_consFirst (cs segment : List Char) (others : List (List Char)) :
    cs.foldr consFirst (segment :: others) = (cs ++ segment) :: others := by
  induction cs with
  | nil => rfl
  | cons c cs ih => rw [List.foldr_cons, ih, consFirst, List.cons_append]

/-- Segments come apart at the slashes between them, if each is written so that it is read as a
whole. -/
theorem split_segments {f : List Char → List (List Char)} {write : String → List Char}
    (hnil : f [] = [[]]) (hslash : ∀ rest, f ('/' :: rest) = [] :: f rest)
    (first : String) (others : List String)
    (hwrite : ∀ segment ∈ first :: others, ∀ rest,
      f (write segment ++ rest) = segment.toList.foldr consFirst (f rest)) :
    f (write first ++ others.flatMap fun segment => '/' :: write segment) =
      (first :: others).map String.toList := by
  induction others generalizing first with
  | nil =>
    rw [List.flatMap_nil, hwrite first (List.mem_cons_self ..), hnil, foldr_consFirst]
    simp
  | cons second others ih =>
    have hsecond := ih second fun segment h => hwrite segment (List.mem_cons_of_mem _ h)
    rw [hwrite first (List.mem_cons_self ..), List.flatMap_cons, List.cons_append, hslash,
      hsecond, foldr_consFirst]
    simp

theorem isBareChar_ne_slash {c : Char} (h : isBareChar c = true) : c ≠ '/' := by
  rintro rfl
  exact absurd h (by decide)

theorem splitSlashes_append {cs : List Char} (h : ∀ c ∈ cs, isBareChar c = true)
    (rest : List Char) : splitSlashes (cs ++ rest) = cs.foldr consFirst (splitSlashes rest) := by
  induction cs with
  | nil => rfl
  | cons c cs ih =>
    have hc := isBareChar_ne_slash (h c (List.mem_cons_self ..))
    rw [List.cons_append, splitSlashes, if_neg hc, ih fun d hd => h d (List.mem_cons_of_mem _ hd),
      List.foldr_cons]

theorem splitEscaped_escapeChar (c : Char) (rest : List Char) :
    splitEscaped (escapeChar c ++ rest) = consFirst c (splitEscaped rest) := by
  unfold escapeChar
  split
  · rename_i h
    simp [splitEscaped, h]
  · rename_i h
    simp only [not_or] at h
    simp [splitEscaped, h]

theorem splitEscaped_append (cs rest : List Char) :
    splitEscaped (cs.flatMap escapeChar ++ rest) = cs.foldr consFirst (splitEscaped rest) := by
  induction cs with
  | nil => rfl
  | cons c cs ih =>
    rw [List.flatMap_cons, List.append_assoc, splitEscaped_escapeChar, ih, List.foldr_cons]

theorem map_ofList_toList (segments : List String) :
    (segments.map String.toList).map String.ofList = segments := by
  simp [Function.comp_def]

theorem bare_chars {p : Pointer} (h : p.segments ≠ []) (hbare : p.isBare = true) :
    ∃ body, p.toChars = '/' :: body ∧ (∀ c ∈ body, Scan.isPointerChar c = true) ∧
      ofBare body = p := by
  obtain ⟨segments⟩ := p
  obtain ⟨first, others, rfl⟩ := List.exists_cons_of_ne_nil h
  have hchars : ∀ segment ∈ first :: others, ∀ c ∈ segment.toList, isBareChar c = true := by
    simpa [isBare] using hbare
  refine ⟨first.toList ++ others.flatMap fun segment => '/' :: segment.toList, ?_, ?_, ?_⟩
  · rw [toChars, if_pos hbare, List.flatMap_cons, List.cons_append]
  · intro c hc
    have hbody : c = '/' ∨ ∃ segment ∈ first :: others, c ∈ segment.toList := by
      simp only [List.mem_append, List.mem_flatMap, List.mem_cons] at hc ⊢
      grind
    rcases hbody with rfl | ⟨segment, hsegment, hc⟩
    · rfl
    · simp [Scan.isPointerChar, hchars segment hsegment c hc]
  · rw [ofBare, split_segments rfl (fun rest => by rw [splitSlashes, if_pos rfl]) first others
      fun segment hsegment rest => splitSlashes_append (hchars segment hsegment) rest,
      map_ofList_toList]

theorem quoted_chars {p : Pointer} (h : p.segments ≠ []) (hbare : p.isBare = false) :
    ∃ body, p.toChars = '"' :: (body ++ ['"']) ∧ Scan.Unclosed body ∧
      Scan.quotedToken body = .pointer p := by
  obtain ⟨segments⟩ := p
  obtain ⟨first, others, rfl⟩ := List.exists_cons_of_ne_nil h
  have hescape (c : Char) : Scan.Unclosed (escapeChar c) := by
    unfold escapeChar
    split
    · exact Scan.Unclosed.escaped c
    · rename_i hc
      simp only [not_or] at hc
      exact Scan.Unclosed.single hc.2.2 hc.2.1
  have hslash : Scan.Unclosed ['/'] := Scan.Unclosed.single (by decide) (by decide)
  have hsegments (segments : List String) : Scan.Unclosed
      (segments.flatMap fun segment => '/' :: segment.toList.flatMap escapeChar) := by
    induction segments with
    | nil => exact Scan.Unclosed.nil
    | cons segment segments ih =>
      exact (hslash.append (Scan.Unclosed.flatMap hescape segment.toList)).append ih
  refine ⟨_, by rw [toChars, if_neg (by simp [hbare])], hsegments (first :: others), ?_⟩
  have hsplit := split_segments (f := splitEscaped) rfl (fun _ => rfl) first others
    fun segment _ rest => splitEscaped_append segment.toList rest
  rw [List.flatMap_cons, List.cons_append, Scan.quotedToken, ofEscaped, hsplit, map_ofList_toList]

end Pointer
end EventRouting
