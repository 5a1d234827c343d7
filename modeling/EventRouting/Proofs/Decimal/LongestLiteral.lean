import Mathlib.Computability.Language
import EventRouting.Proofs.Decimal.Prefix

set_option autoImplicit false

/-!
# The longest literal

The words that are written as number literals form a regular language, a product of small ones.
Scanning takes a word of one factor after the other and each time the longest one. No word of the
factors behind begins with a character that a factor could have taken, so what is taken in all is
the longest word of the product.
-/
namespace EventRouting

/-- `front` is the longest word of a language that a text begins with. -/
structure Longest (L : Language Char) (text front : List Char) : Prop where
  mem : front ∈ L
  begins : front <+: text
  longest : ∀ word ∈ L, word <+: text → word.length ≤ front.length

def Without (L : Language Char) (text : List Char) : Prop := ∀ word ∈ L, ¬word <+: text

def Heads (L : Language Char) (p : Char → Prop) : Prop := ∀ w ∈ L, ∀ c ∈ w.head?, p c

/-- Where a word goes on, no word of the language begins. -/
def Separates (L : Language Char) (word : List Char) : Prop := Heads L (· ∉ word)

namespace Heads

variable {A B : Language Char} {p q : Char → Prop}

theorem mono (h : Heads A p) (himp : ∀ c, p c → q c) : Heads A q :=
  fun w hw c hc => himp c (h w hw c hc)

theorem optional (h : Heads A p) : Heads (1 + A) p := by
  intro w hw
  rcases (Language.mem_add ..).1 hw with hnil | hw
  · rw [(Language.mem_one _).1 hnil]
    simp
  · exact h w hw

theorem mul (hA : Heads A p) (hB : Heads B p) : Heads (A * B) p := by
  intro w hw
  obtain ⟨v, hv, u, hu, rfl⟩ := Language.mem_mul.1 hw
  cases v with
  | nil => exact hB u hu
  | cons d v =>
    intro c hc
    exact hA (d :: v) hv c hc

theorem mul_left (h : Heads A p) (hnil : [] ∉ A) (B : Language Char) : Heads (A * B) p := by
  intro w hw
  obtain ⟨v, hv, u, -, rfl⟩ := Language.mem_mul.1 hw
  cases v with
  | nil => exact absurd hv hnil
  | cons d v =>
    intro c hc
    exact h (d :: v) hv c hc

theorem separates (h : Heads A p) {word : List Char} (hword : ∀ c ∈ word, ¬p c) :
    Separates A word :=
  h.mono fun c hp hc => hword c hc hp

end Heads

namespace Longest

variable {A B : Language Char} {text a b rest : List Char}

theorem optional (h : Longest A text a) : Longest (1 + A) text a := by
  refine ⟨.inr h.mem, h.begins, fun word hword hfront => ?_⟩
  rcases (Language.mem_add ..).1 hword with hnil | hword
  · rw [(Language.mem_one _).1 hnil]
    exact Nat.zero_le _
  · exact h.longest word hword hfront

theorem of_without (h : Without A text) : Longest (1 + A) text [] := by
  refine ⟨.inl rfl, List.nil_prefix, fun word hword hfront => ?_⟩
  rcases (Language.mem_add ..).1 hword with hnil | hword
  · rw [(Language.mem_one _).1 hnil]
  · exact absurd hfront (h word hword)

/-- A word of a product takes either all of the first factor's longest word, or no more than
that. -/
theorem split (ha : Longest A (a ++ rest) a) (hseparates : Separates B a) {word : List Char}
    (hword : word ∈ A * B) (hfront : word <+: a ++ rest) :
    (∃ w ∈ B, w <+: rest ∧ word = a ++ w) ∨ [] ∈ B ∧ word <+: a := by
  obtain ⟨v, hv, w, hw, rfl⟩ := Language.mem_mul.1 hword
  have hbegins : v <+: a ++ rest := (List.prefix_append v w).trans hfront
  have hshort : v <+: a :=
    List.prefix_of_prefix_length_le hbegins (List.prefix_append a rest)
      (ha.longest v hv hbegins)
  obtain ⟨left, rfl⟩ := hshort
  rw [List.append_assoc, List.prefix_append_right_inj] at hfront
  cases left with
  | nil => exact .inl ⟨w, hw, hfront, by rw [List.append_nil]⟩
  | cons c left =>
    cases w with
    | nil => exact .inr ⟨hw, by simp⟩
    | cons d w =>
      have hd : d = c := (List.cons_prefix_cons.1 hfront).1
      exact absurd (hd ▸ by simp) (hseparates _ hw d rfl)

theorem mul (ha : Longest A (a ++ rest) a) (hb : Longest B rest b)
    (hseparates : Separates B a) : Longest (A * B) (a ++ rest) (a ++ b) := by
  refine ⟨Language.append_mem_mul ha.mem hb.mem,
    (List.prefix_append_right_inj _).2 hb.begins, fun word hword hfront => ?_⟩
  rcases ha.split hseparates hword hfront with ⟨w, hw, hbegins, rfl⟩ | ⟨-, hshort⟩
  · have := hb.longest w hw hbegins
    simp only [List.length_append]
    omega
  · have := hshort.length_le
    simp only [List.length_append]
    omega

theorem without_mul (ha : Longest A (a ++ rest) a) (hb : Without B rest)
    (hseparates : Separates B a) : Without (A * B) (a ++ rest) := by
  intro word hword hfront
  rcases ha.split hseparates hword hfront with ⟨w, hw, hbegins, -⟩ | ⟨hnil, -⟩
  · exact hb w hw hbegins
  · exact hb [] hnil List.nil_prefix

end Longest

theorem Without.mul {A : Language Char} {text : List Char} (h : Without A text)
    (B : Language Char) : Without (A * B) text := by
  intro word hword hfront
  obtain ⟨v, hv, w, -, rfl⟩ := Language.mem_mul.1 hword
  exact h v hv ((List.prefix_append v w).trans hfront)

def oneOf (chars : List Char) : Language Char := {w | ∃ c ∈ chars, w = [c]}

section

variable {chars : List Char}

theorem nil_notMem_oneOf : [] ∉ oneOf chars := by
  rintro ⟨c, -, h⟩
  cases h

theorem heads_oneOf : Heads (oneOf chars) (· ∈ chars) := by
  rintro w ⟨c, hc, rfl⟩ d hd
  rw [← Option.some.inj hd]
  exact hc

theorem longest_oneOf {c : Char} (hc : c ∈ chars) (cs : List Char) :
    Longest (oneOf chars) ([c] ++ cs) [c] := by
  refine ⟨⟨c, hc, rfl⟩, List.prefix_append _ _, ?_⟩
  rintro w ⟨d, -, rfl⟩ -
  exact Nat.le_refl 1

theorem without_oneOf {cs : List Char} (h : ∀ c ∈ cs.head?, c ∉ chars) :
    Without (oneOf chars) cs := by
  rintro w ⟨c, hc, rfl⟩ ⟨more, rfl⟩
  exact h c rfl hc

end

namespace Decimal

def digits : Language Char := {ds | Text.IsDigits ds}

def fractions : Language Char := oneOf ['.'] * digits

def exponents : Language Char := oneOf ['e', 'E'] * ((1 + oneOf ['+', '-']) * digits)

/-- The words `-?[0-9]+(\.[0-9]+)?([eE][+-]?[0-9]+)?`. -/
def numerals : Language Char :=
  (1 + oneOf ['-']) * (digits * ((1 + fractions) * (1 + exponents)))

variable {cs : List Char}

theorem heads_digits : Heads digits (Text.isDigit · = true) :=
  fun _ hw c hc => hw.2 c (List.mem_of_mem_head? hc)

theorem heads_fractions : Heads fractions (· ∈ ['.']) :=
  heads_oneOf.mul_left nil_notMem_oneOf digits

theorem heads_exponents : Heads exponents (· ∈ ['e', 'E']) :=
  heads_oneOf.mul_left nil_notMem_oneOf _

theorem longest_digits (h : cs.takeWhile Text.isDigit ≠ []) :
    Longest digits cs (cs.takeWhile Text.isDigit) := by
  refine ⟨⟨h, List.all_eq_true.1 List.all_takeWhile⟩, List.takeWhile_prefix _, ?_⟩
  rintro word hword ⟨more, rfl⟩
  rw [List.takeWhile_append_of_pos hword.2, List.length_append]
  exact Nat.le_add_right _ _

theorem without_digits (h : cs.takeWhile Text.isDigit = []) : Without digits cs := by
  rintro word hword ⟨more, rfl⟩
  rw [List.takeWhile_append_of_pos hword.2] at h
  exact hword.1 (List.append_eq_nil_iff.1 h).1

theorem separates_digits {front : List Char} (h : ∀ c ∈ front, c ∈ ['.', '+', '-']) :
    Separates digits front := by
  apply heads_digits.separates
  intro c hc hdigit
  have hc := h c hc
  simp only [List.mem_cons, List.not_mem_nil, or_false] at hc
  rcases hc with rfl | rfl | rfl <;> exact absurd hdigit (by decide)

theorem longest_fraction {ds : List Char} (h : scanFraction cs = some ds) :
    Text.IsDigits ds ∧ Longest fractions cs ('.' :: ds) := by
  unfold scanFraction at h
  split at h
  · simp only [Option.ite_none_left_eq_some, List.isEmpty_iff, Option.some.injEq] at h
    obtain ⟨hne, rfl⟩ := h
    have hdigits := longest_digits hne
    have hpoint := longest_oneOf (List.mem_singleton_self '.')
    exact ⟨hdigits.mem, (hpoint _).mul hdigits (separates_digits (by simp))⟩
  · cases h

theorem without_fraction (h : scanFraction cs = none) : Without fractions cs := by
  unfold scanFraction at h
  split at h
  · simp only [ite_eq_left_iff, List.isEmpty_iff, reduceCtorEq, imp_false, not_not] at h
    have hpoint := longest_oneOf (List.mem_singleton_self '.')
    exact (hpoint _).without_mul (without_digits h) (separates_digits (by simp))
  · rename_i hpoint
    apply Without.mul
    apply without_oneOf
    intro c hc hmem
    obtain ⟨more, hcs⟩ := List.head?_eq_some_iff.1 hc
    exact hpoint more (by rw [hcs, List.mem_singleton.1 hmem])

theorem exists_sign (cs : List Char) :
    ∃ (sign : Option Char) (more : List Char), cs = sign.toList ++ more ∧
      (sign = none ∨ sign = some '+' ∨ sign = some '-') ∧
      Longest (1 + oneOf ['+', '-']) cs sign.toList ∧
      ∀ mark ∈ ['e', 'E'], Exponent.scan (mark :: cs) =
        if (more.takeWhile Text.isDigit).isEmpty then none
        else some ⟨mark, sign, more.takeWhile Text.isDigit⟩ := by
  cases cs with
  | nil =>
    refine ⟨none, [], rfl, .inl rfl, Longest.of_without (without_oneOf (by simp)), ?_⟩
    simp [Exponent.scan]
  | cons c cs =>
    by_cases hplus : c = '+'
    · subst hplus
      refine ⟨some '+', cs, rfl, .inr (.inl rfl), (longest_oneOf (by simp) cs).optional, ?_⟩
      simp [Exponent.scan]
    · by_cases hminus : c = '-'
      · subst hminus
        refine ⟨some '-', cs, rfl, .inr (.inr rfl), (longest_oneOf (by simp) cs).optional, ?_⟩
        simp [Exponent.scan]
      · refine ⟨none, c :: cs, rfl, .inl rfl, Longest.of_without (without_oneOf ?_), ?_⟩
        · simp [hplus, hminus]
        · simp [Exponent.scan, hplus, hminus]

theorem separates_sign {sign : Option Char}
    (h : sign = none ∨ sign = some '+' ∨ sign = some '-') : Separates digits sign.toList := by
  apply separates_digits
  rcases h with rfl | rfl | rfl <;> simp

theorem separates_mark {mark : Char} (hmark : mark ∈ ['e', 'E']) :
    Separates ((1 + oneOf ['+', '-']) * digits) [mark] := by
  have hhead : Heads ((1 + oneOf ['+', '-']) * digits) fun c =>
      c ∈ ['+', '-'] ∨ Text.isDigit c = true :=
    (heads_oneOf.optional.mono fun c hc => .inl hc).mul (heads_digits.mono fun c hc => .inr hc)
  apply hhead.separates
  simp only [List.mem_cons, List.not_mem_nil, or_false] at hmark
  rcases hmark with rfl | rfl <;> exact List.forall_mem_singleton.2 (by decide)

theorem Exponent.mark_of_scan {e : Exponent} (h : scan cs = some e) :
    ∃ mark ∈ ['e', 'E'], ∃ rest, cs = mark :: rest := by
  cases cs with
  | nil => cases h
  | cons mark rest =>
    simp only [scan, Option.ite_none_right_eq_some] at h
    exact ⟨mark, by simpa using h.1, rest, rfl⟩

theorem longest_exponent {e : Exponent} (h : Exponent.scan cs = some e) :
    e.WellFormed ∧ Longest exponents cs e.text := by
  obtain ⟨mark, hmark, rest, rfl⟩ := Exponent.mark_of_scan h
  obtain ⟨sign, more, hrest, hsign, hlongest, hscan⟩ := exists_sign rest
  rw [hscan mark hmark] at h
  simp only [Option.ite_none_left_eq_some, List.isEmpty_iff, Option.some.injEq] at h
  obtain ⟨hne, rfl⟩ := h
  have hdigits := longest_digits hne
  rw [hrest] at hlongest ⊢
  exact ⟨⟨by simpa using hmark, hsign, hdigits.mem⟩,
    (longest_oneOf hmark _).mul (hlongest.mul hdigits (separates_sign hsign))
      (separates_mark hmark)⟩

theorem without_exponent (h : Exponent.scan cs = none) : Without exponents cs := by
  by_cases hbegins : ∃ mark ∈ ['e', 'E'], ∃ rest, cs = mark :: rest
  · obtain ⟨mark, hmark, rest, rfl⟩ := hbegins
    obtain ⟨sign, more, hrest, hsign, hlongest, hscan⟩ := exists_sign rest
    rw [hscan mark hmark] at h
    simp only [ite_eq_left_iff, List.isEmpty_iff, reduceCtorEq, imp_false, not_not] at h
    rw [hrest] at hlongest ⊢
    exact (longest_oneOf hmark _).without_mul
      (hlongest.without_mul (without_digits h) (separates_sign hsign)) (separates_mark hmark)
  · apply Without.mul
    apply without_oneOf
    intro c hc hmem
    exact hbegins ⟨c, hmem, List.head?_eq_some_iff.1 hc⟩

namespace Literal

variable {l : Literal}

theorem longest_fractionText (h : scanFraction cs = l.fraction) :
    Longest (1 + fractions) cs l.fractionText := by
  unfold fractionText
  cases hfraction : l.fraction with
  | some ds => exact (longest_fraction (h.trans hfraction)).2.optional
  | none => exact Longest.of_without (without_fraction (h.trans hfraction))

theorem longest_exponentText (h : Exponent.scan cs = l.exponent) :
    Longest (1 + exponents) cs l.exponentText := by
  unfold exponentText
  cases hexponent : l.exponent with
  | some e => exact (longest_exponent (h.trans hexponent)).2.optional
  | none => exact Longest.of_without (without_exponent (h.trans hexponent))

theorem separates_fractionText (h : ∀ ds ∈ l.fraction, Text.IsDigits ds) :
    Separates (1 + exponents) l.fractionText := by
  apply heads_exponents.optional.separates
  unfold fractionText
  cases hfraction : l.fraction with
  | none => simp
  | some ds =>
    intro c hc hmark
    simp only [List.mem_cons, List.not_mem_nil, or_false] at hc hmark
    have hdigit := (h ds hfraction).2 c
    rcases hc with rfl | hc
    · exact absurd hmark (by decide)
    · rcases hmark with rfl | rfl <;> exact absurd (hdigit hc) (by decide)

theorem separates_whole {ds : List Char} (h : Text.IsDigits ds) :
    Separates ((1 + fractions) * (1 + exponents)) ds := by
  have hhead : Heads ((1 + fractions) * (1 + exponents)) (· ∈ ['.', 'e', 'E']) := by
    refine (heads_fractions.optional.mono ?_).mul (heads_exponents.optional.mono ?_)
    · exact fun c hc => List.mem_cons.2 (.inl (List.mem_singleton.1 hc))
    · exact fun c hc => List.mem_cons_of_mem _ hc
  apply hhead.separates
  intro c hc hmark
  have hdigit := h.2 c hc
  simp only [List.mem_cons, List.not_mem_nil, or_false] at hmark
  rcases hmark with rfl | rfl | rfl <;> exact absurd hdigit (by decide)

theorem longest_of_scanUnsigned {negative : Bool} (h : scanUnsigned negative cs = some l) :
    l.WellFormed ∧ l.negative = negative ∧
      Longest (digits * ((1 + fractions) * (1 + exponents))) cs
        (l.whole ++ (l.fractionText ++ l.exponentText)) := by
  obtain ⟨hnegative, hne, htake, more, hcs, hfraction, hexponent⟩ := scanUnsigned_eq_some h
  have hwhole : Longest digits cs l.whole := by
    rw [← htake] at hne ⊢
    exact longest_digits hne
  have hdigits : ∀ ds ∈ l.fraction, Text.IsDigits ds :=
    fun ds hds => (longest_fraction (hfraction.trans hds)).1
  have hparts := (longest_fractionText hfraction).mul (longest_exponentText hexponent)
    (separates_fractionText hdigits)
  refine ⟨⟨hwhole.mem, hdigits, fun e he => (longest_exponent (hexponent.trans he)).1⟩,
    hnegative, ?_⟩
  rw [hcs] at hwhole ⊢
  exact hwhole.mul hparts (separates_whole hwhole.mem)

/-- A literal is scanned to the longest number that the text begins with. -/
theorem longest_of_scan (h : scan cs = some l) : l.WellFormed ∧ Longest numerals cs l.text := by
  have htext : l.text = (if l.negative then ['-'] else []) ++
      (l.whole ++ (l.fractionText ++ l.exponentText)) := by
    simp [text]
  have hseparates : Separates (digits * ((1 + fractions) * (1 + exponents))) ['-'] :=
    (heads_digits.mul_left (fun hnil => hnil.1 rfl) _).separates
      (List.forall_mem_singleton.2 (by decide))
  rw [htext]
  unfold scan at h
  split at h
  · rename_i rest
    obtain ⟨hwell, hnegative, hlongest⟩ := longest_of_scanUnsigned h
    have hminus := (longest_oneOf (List.mem_singleton_self '-') rest).optional
    rw [if_pos hnegative]
    exact ⟨hwell, hminus.mul hlongest hseparates⟩
  · rename_i hminus
    obtain ⟨hwell, hnegative, hlongest⟩ := longest_of_scanUnsigned h
    have hnone : Longest (1 + oneOf ['-']) ([] ++ cs) [] := by
      apply Longest.of_without
      apply without_oneOf
      intro c hc hmem
      obtain ⟨more, hcs⟩ := List.head?_eq_some_iff.1 hc
      exact hminus more (by rw [← List.mem_singleton.1 hmem]; exact hcs)
    rw [if_neg (by simp [hnegative])]
    exact ⟨hwell, hnone.mul hlongest fun _ _ _ _ => List.not_mem_nil⟩

end Literal
end Decimal
end EventRouting
