import EventRouting.Decimal.Literal

set_option autoImplicit false

namespace EventRouting

namespace Text

def IsDigits (ds : List Char) : Prop := ds ≠ [] ∧ ∀ c ∈ ds, isDigit c = true

theorem isDigit_eq (c : Char) : isDigit c = c.isDigit := by
  simp only [isDigit, Char.isDigit, Char.le_def, ge_iff_le]

theorem isDigits_toDigits (n : Nat) : IsDigits (Nat.toDigits 10 n) := by
  refine ⟨Nat.toDigits_ne_nil, fun c hc => ?_⟩
  rw [isDigit_eq]
  exact Nat.isDigit_of_mem_toDigits (by decide) (by decide) hc

theorem isAscii_of_alphanumeric {c : Char} (h : isAsciiAlphanumeric c = true) :
    isAscii c = true := by
  simp only [isAsciiAlphanumeric, isAsciiLetter, isDigit, Char.le_def,
    UInt32.le_iff_toNat_le, Bool.or_eq_true, Bool.and_eq_true, decide_eq_true_eq] at h
  simp only [isAscii, Char.toNat, decide_eq_true_eq]
  have hz : 'z'.val.toNat = 122 := rfl
  have hZ : 'Z'.val.toNat = 90 := rfl
  have h9 : '9'.val.toNat = 57 := rfl
  omega

theorem isAlphanumeric_of_ascii {c : Char} (h : isAsciiAlphanumeric c = true) :
    isAlphanumeric c = true := by
  rw [isAlphanumeric, if_pos (isAscii_of_alphanumeric h), h]

theorem isBlank_of_ascii {c : Char} (h : isAsciiAlphanumeric c = true) :
    isBlank c = false := by
  cases hblank : isBlank c with
  | false => rfl
  | true =>
    have := isAlphanumeric_of_isBlank hblank
    simp [isAlphanumeric_of_ascii h] at this

theorem natOfDigits_eq (ds : List Char) : natOfDigits ds = Nat.ofDigitChars 10 ds 0 := rfl

theorem natOfDigits_toDigits (n : Nat) : natOfDigits (Nat.toDigits 10 n) = n :=
  Nat.ofDigitChars_ten_toDigits

theorem natOfDigits_append (ds es : List Char) :
    natOfDigits (ds ++ es) = 10 ^ es.length * natOfDigits ds + natOfDigits es := by
  rw [natOfDigits_eq, Nat.ofDigitChars_append, Nat.ofDigitChars_eq_ofDigitChars_zero]
  rfl

theorem natOfDigits_zeros (n : Nat) : natOfDigits (List.replicate n '0') = 0 := by
  rw [natOfDigits_eq, Nat.ofDigitChars_replicate_zero, Nat.mul_zero]

theorem natOfDigits_zeros_append (n : Nat) (ds : List Char) :
    natOfDigits (List.replicate n '0' ++ ds) = natOfDigits ds := by
  rw [natOfDigits_append, natOfDigits_zeros, Nat.mul_zero, Nat.zero_add]

theorem natOfDigits_append_zeros (ds : List Char) (n : Nat) :
    natOfDigits (ds ++ List.replicate n '0') = 10 ^ n * natOfDigits ds := by
  rw [natOfDigits_append, natOfDigits_zeros, List.length_replicate, Nat.add_zero]

theorem isDigit_of_mem_zeros {n : Nat} {c : Char} (h : c ∈ List.replicate n '0') :
    isDigit c = true := by
  rw [List.eq_of_mem_replicate h]
  rfl

theorem isDigits_zeros (n : Nat) : IsDigits (List.replicate (n + 1) '0') :=
  ⟨by simp, fun _ => isDigit_of_mem_zeros⟩

namespace IsDigits

variable {ds : List Char} (h : IsDigits ds)

include h

theorem zeros_append (n : Nat) : IsDigits (List.replicate n '0' ++ ds) :=
  ⟨by simp [h.1], fun c hc => (List.mem_append.1 hc).elim isDigit_of_mem_zeros (h.2 c)⟩

theorem append_zeros (n : Nat) : IsDigits (ds ++ List.replicate n '0') :=
  ⟨by simp [h.1], fun c hc => (List.mem_append.1 hc).elim (h.2 c) isDigit_of_mem_zeros⟩

theorem take {n : Nat} (hn : 0 < n) : IsDigits (ds.take n) := by
  refine ⟨?_, fun c hc => h.2 c (List.mem_of_mem_take hc)⟩
  simp only [ne_eq, List.take_eq_nil_iff, h.1, or_false]
  omega

theorem drop {n : Nat} (hn : n < ds.length) : IsDigits (ds.drop n) :=
  ⟨by simpa using hn, fun c hc => h.2 c (List.mem_of_mem_drop hc)⟩

theorem lineFeed_notMem : '\n' ∉ ds := fun hmem => absurd (h.2 _ hmem) (by decide)

end IsDigits

theorem takeWhile_append {f : Char → Bool} {cs rest : List Char} (h : ∀ c ∈ cs, f c = true)
    (hrest : ∀ c ∈ rest.head?, f c = false) :
    (cs ++ rest).takeWhile f = cs ∧ (cs ++ rest).dropWhile f = rest := by
  rw [List.takeWhile_append_of_pos h, List.dropWhile_append_of_pos h]
  cases rest with
  | nil => simp
  | cons c rest =>
    have hc := hrest c rfl
    simp [hc]

end Text

namespace Decimal

structure Exponent.WellFormed (e : Exponent) : Prop where
  mark : e.mark = 'e' ∨ e.mark = 'E'
  sign : e.sign = none ∨ e.sign = some '+' ∨ e.sign = some '-'
  digits : Text.IsDigits e.digits

structure Literal.WellFormed (l : Literal) : Prop where
  whole : Text.IsDigits l.whole
  fraction : ∀ ds ∈ l.fraction, Text.IsDigits ds
  exponent : ∀ e ∈ l.exponent, e.WellFormed

def isNumeral (c : Char) : Bool :=
  Text.isDigit c || c = '-' || c = '+' || c = '.' || c = 'e' || c = 'E'

theorem isNumeral_of_isDigits {ds : List Char} (h : Text.IsDigits ds) :
    ∀ c ∈ ds, isNumeral c = true := by
  intro c hc
  simp [isNumeral, h.2 c hc]

theorem Exponent.WellFormed.numerals {e : Exponent} (h : e.WellFormed) :
    ∀ c ∈ e.text, isNumeral c = true := by
  have hmark : isNumeral e.mark = true := by
    rcases h.mark with hmark | hmark <;> rw [hmark] <;> decide
  have hsign : ∀ c ∈ e.sign.toList, isNumeral c = true := by
    refine List.all_eq_true.1 ?_
    rcases h.sign with hsign | hsign | hsign <;> rw [hsign] <;> rfl
  exact List.forall_mem_append.2
    ⟨List.forall_mem_cons.2 ⟨hmark, hsign⟩, isNumeral_of_isDigits h.digits⟩

theorem Literal.WellFormed.numerals {l : Literal} (h : l.WellFormed) :
    ∀ c ∈ l.text, isNumeral c = true := by
  have hsign : ∀ c ∈ if l.negative then ['-'] else [], isNumeral c = true := by
    refine List.all_eq_true.1 ?_
    split <;> rfl
  have hfraction : ∀ c ∈ l.fractionText, isNumeral c = true := by
    unfold fractionText
    split
    · rename_i ds hds
      exact List.forall_mem_cons.2 ⟨by decide, isNumeral_of_isDigits (h.fraction ds hds)⟩
    · exact fun c hc => absurd hc List.not_mem_nil
  have hexponent : ∀ c ∈ l.exponentText, isNumeral c = true := by
    unfold exponentText
    split
    · rename_i e he
      exact (h.exponent e he).numerals
    · exact fun c hc => absurd hc List.not_mem_nil
  simp only [text, List.forall_mem_append]
  exact ⟨⟨⟨hsign, isNumeral_of_isDigits h.whole⟩, hfraction⟩, hexponent⟩

/-- No digit, point or exponent mark follows. -/
def Literal.Ends (rest : List Char) : Prop :=
  ∀ c ∈ rest.head?, Text.isDigit c = false ∧ c ≠ '.' ∧ c ≠ 'e' ∧ c ≠ 'E'

theorem Exponent.scan_text {e : Exponent} (h : e.WellFormed) {rest : List Char}
    (hrest : Literal.Ends rest) : Exponent.scan (e.text ++ rest) = some e := by
  obtain ⟨mark, sign, digits⟩ := e
  obtain ⟨hmark, hsign, hne, hdigits⟩ := h
  simp only at hmark hsign hne hdigits
  have htake := (Text.takeWhile_append hdigits fun c hc => (hrest c hc).1).1
  obtain ⟨c, cs, rfl⟩ := List.exists_cons_of_ne_nil hne
  have hc := hdigits c (List.mem_cons_self ..)
  rcases hsign with rfl | rfl | rfl
  · have hplus : c ≠ '+' := by rintro rfl; simp [Text.isDigit] at hc
    have hminus : c ≠ '-' := by rintro rfl; simp [Text.isDigit] at hc
    simp only [List.cons_append] at htake
    simp [scan, text, hmark, hplus, hminus, htake]
  · simp only [List.cons_append] at htake
    simp [scan, text, hmark, htake]
  · simp only [List.cons_append] at htake
    simp [scan, text, hmark, htake]

theorem Exponent.scan_eq_none {rest : List Char} (h : Literal.Ends rest) :
    Exponent.scan rest = none := by
  cases rest with
  | nil => rfl
  | cons c rest =>
    obtain ⟨-, -, he, hE⟩ := h c rfl
    simp [scan, he, hE]

theorem scanFraction_append {ds rest : List Char} (h : Text.IsDigits ds)
    (hrest : ∀ c ∈ rest.head?, Text.isDigit c = false) :
    scanFraction ('.' :: (ds ++ rest)) = some ds := by
  have htake := (Text.takeWhile_append h.2 hrest).1
  simp [scanFraction, htake, h.1]

theorem scanFraction_eq_none {rest : List Char} (h : ∀ c ∈ rest.head?, c ≠ '.') :
    scanFraction rest = none := by
  cases rest with
  | nil => rfl
  | cons c rest =>
    have hc := h c rfl
    simp [scanFraction, hc]

namespace Literal

theorem exponentText_head {l : Literal} (h : l.WellFormed) {rest : List Char}
    (hrest : Ends rest) :
    ∀ c ∈ (l.exponentText ++ rest).head?, Text.isDigit c = false ∧ c ≠ '.' := by
  unfold exponentText
  split
  · rename_i e he
    rintro c hc
    obtain rfl : e.mark = c := by simpa [Exponent.text] using hc
    rcases (h.exponent e he).mark with hm | hm <;> rw [hm] <;> decide
  · exact fun c hc => ⟨(hrest c hc).1, (hrest c hc).2.1⟩

theorem fractionText_head {l : Literal} (h : l.WellFormed) {rest : List Char}
    (hrest : Ends rest) :
    ∀ c ∈ (l.fractionText ++ (l.exponentText ++ rest)).head?, Text.isDigit c = false := by
  unfold fractionText
  split
  · rintro c hc
    obtain rfl : '.' = c := by simpa using hc
    decide
  · exact fun c hc => (exponentText_head h hrest c hc).1

theorem scan_exponentText {l : Literal} (h : l.WellFormed) {rest : List Char}
    (hrest : Ends rest) : Exponent.scan (l.exponentText ++ rest) = l.exponent := by
  unfold exponentText
  split
  · rename_i e he
    rw [he, Exponent.scan_text (h.exponent e he) hrest]
  · rename_i he
    rw [he]
    exact Exponent.scan_eq_none hrest

theorem scanUnsigned_text {l : Literal} (h : l.WellFormed) {rest : List Char}
    (hrest : Ends rest) :
    scanUnsigned l.negative (l.whole ++ (l.fractionText ++ (l.exponentText ++ rest))) = some l := by
  obtain ⟨htake, hdrop⟩ := Text.takeWhile_append h.whole.2 (fractionText_head h hrest)
  have hexponent := scan_exponentText h hrest
  have hhead := exponentText_head h hrest
  simp only [scanUnsigned, htake, hdrop, List.isEmpty_iff, h.whole.1, if_false]
  cases hfraction : l.fraction with
  | some ds =>
    have hscan := scanFraction_append (h.fraction ds hfraction) fun c hc => (hhead c hc).1
    have htext : l.fractionText = '.' :: ds := by simp [fractionText, hfraction]
    simp only [htext, List.cons_append, hscan, List.drop_succ_cons, List.drop_left, hexponent]
    rw [← hfraction]
  | none =>
    have htext : l.fractionText = [] := by simp [fractionText, hfraction]
    simp only [htext, List.nil_append, scanFraction_eq_none fun c hc => (hhead c hc).2, hexponent]
    rw [← hfraction]

theorem scan_text {l : Literal} (h : l.WellFormed) {rest : List Char} (hrest : Ends rest) :
    scan (l.text ++ rest) = some l := by
  have hunsigned := scanUnsigned_text h hrest
  simp only [text, List.append_assoc]
  cases hnegative : l.negative with
  | true =>
    rw [hnegative] at hunsigned
    exact hunsigned
  | false =>
    rw [hnegative] at hunsigned
    obtain ⟨c, cs, hwhole⟩ := List.exists_cons_of_ne_nil h.whole.1
    have hc : Text.isDigit c = true := h.whole.2 c (by simp [hwhole])
    have hminus : c ≠ '-' := by rintro rfl; simp [Text.isDigit] at hc
    simp only [hwhole, List.cons_append] at hunsigned
    simpa [hwhole, scan, hminus] using hunsigned

theorem text_head {l : Literal} (h : l.WellFormed) :
    ∃ c cs, l.text = c :: cs ∧ (c = '-' ∨ Text.isDigit c = true) := by
  obtain ⟨c, cs, hwhole⟩ := List.exists_cons_of_ne_nil h.whole.1
  have hc : Text.isDigit c = true := h.whole.2 c (by simp [hwhole])
  cases hnegative : l.negative with
  | true => exact ⟨'-', _, by rw [text, hnegative]; rfl, .inl rfl⟩
  | false => exact ⟨c, _, by rw [text, hnegative, hwhole]; rfl, .inr hc⟩

end Literal

def Literal.ofInt (n : Int) : Literal := ⟨n < 0, Nat.toDigits 10 n.natAbs, none, none⟩

namespace Literal

theorem ofInt_wellFormed (n : Int) : (ofInt n).WellFormed :=
  ⟨Text.isDigits_toDigits _, by simp [ofInt], by simp [ofInt]⟩

theorem ofInt_text (n : Int) : (ofInt n).text = (Text.ofInt n).toList := by
  simp [text, ofInt, fractionText, exponentText, Text.ofInt]

theorem ofInt_integer (n : Int) : (ofInt n).integer = n := by
  simp only [integer, ofInt, Text.natOfDigits_toDigits, decide_eq_true_eq]
  split <;> omega

end Literal
end Decimal

theorem Int64.ofInt?_toInt (n : Int64) : Int64.ofInt? n.toInt = some n := by
  have hlow := n.le_toInt
  have hhigh := n.toInt_lt
  rw [Int64.ofInt?, if_pos ⟨hlow, hhigh⟩, n.ofInt_toInt]

end EventRouting
