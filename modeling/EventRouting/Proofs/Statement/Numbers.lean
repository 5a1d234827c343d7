import EventRouting.Proofs.Decimal.CorrectRounding
import EventRouting.Proofs.Decimal.LongestLiteral
import EventRouting.Proofs.Statement.Partition

set_option autoImplicit false

namespace EventRouting

open Decimal

namespace Scan

def BeginsNumber (cs : List Char) : Prop :=
  ∃ c more, Text.isDigit c = true ∧ (cs = c :: more ∨ cs = '-' :: c :: more)

/-- What the number that a literal writes is read as, where the literal begins at `p`. -/
structure ReadsNumber (l : Literal) (p : Position) (result : Except LexError Placed) : Prop where
  integer : l.isInteger = true → -2 ^ 63 ≤ l.integer ∧ l.integer < 2 ^ 63 →
    ∃ n : Int64, n.toInt = l.integer ∧ result = .ok ⟨.integer n, p⟩
  wide : l.isInteger = true → ¬(-2 ^ 63 ≤ l.integer ∧ l.integer < 2 ^ 63) →
    result = .error (.invalidNumber (String.ofList l.text) p)
  float : l.isInteger = false → l.magnitude < Magnitude.overflow →
    ∃ m : Magnitude, m.IsNearest l.magnitude ∧
      result = .ok ⟨.float (.finite l.negative m), p⟩
  infinite : l.isInteger = false → Magnitude.overflow ≤ l.magnitude →
    result = .error (.invalidNumber (String.ofList l.text) p)

theorem scanUnsigned_of_digit (negative : Bool) {c : Char} (h : Text.isDigit c = true)
    (more : List Char) : ∃ l, Literal.scanUnsigned negative (c :: more) = some l := by
  simp [Literal.scanUnsigned, h]

theorem BeginsNumber.scan {cs : List Char} (h : BeginsNumber cs) :
    ∃ l, Literal.scan cs = some l := by
  obtain ⟨c, more, hdigit, rfl | rfl⟩ := h
  · have hminus : c ≠ '-' := by
      rintro rfl
      exact absurd hdigit (by decide)
    obtain ⟨l, hl⟩ := scanUnsigned_of_digit false hdigit more
    exact ⟨l, by simpa [Literal.scan, hminus] using hl⟩
  · exact scanUnsigned_of_digit true hdigit more

theorem BeginsNumber.token {c : Char} {cs : List Char} (h : BeginsNumber (c :: cs))
    {l : Literal} (hl : Literal.scan (c :: cs) = some l) (p : Position) :
    token p c cs = number p l := by
  have hclass : (decide (c = '-') || Text.isDigit c) = true := by
    obtain ⟨d, more, hdigit, h | h⟩ := h
    · cases h
      simp [hdigit]
    · cases h
      rfl
  obtain ⟨hsymbol, hslash, hquote⟩ :=
    no_mark_of_class (f := fun c => c = '-' || Text.isDigit c) (by decide) hclass
  rw [token_plain p cs (hsymbol cs) hslash hquote, hl]

theorem number_lexeme (p : Position) (l : Literal) : (number p l).lexeme = l.text := by
  unfold number
  cases numberToken? l <;> rfl

theorem number_of_some {l : Literal} {t : Token} (h : numberToken? l = some t) (p : Position) :
    (number p l).result.map (⟨·, p⟩) = (.ok ⟨t, p⟩ : Except LexError Placed) := by
  rw [number, h]
  rfl

theorem number_of_none {l : Literal} (h : numberToken? l = none) (p : Position) :
    (number p l).result.map (⟨·, p⟩) =
      (.error (.invalidNumber (String.ofList l.text) p) : Except LexError Placed) := by
  rw [number, h]
  rfl

theorem number_reads (p : Position) (l : Literal) :
    ReadsNumber l p ((number p l).result.map (⟨·, p⟩)) where
  integer := by
    intro hinteger hrange
    have htoken : numberToken? l = some (.integer (Int64.ofInt l.integer)) := by
      rw [numberToken?, if_pos hinteger, Int64.ofInt?, if_pos hrange]
      rfl
    exact ⟨_, Int64.toInt_ofInt_of_le hrange.1 hrange.2, number_of_some htoken p⟩
  wide := by
    intro hinteger hrange
    apply number_of_none
    rw [numberToken?, if_pos hinteger, Int64.ofInt?, if_neg hrange]
    rfl
  float := by
    intro hinteger hlt
    obtain ⟨m, hnearest, hvalue⟩ := l.toBinary64_spec.1 hlt
    refine ⟨m, hnearest, number_of_some ?_ p⟩
    rw [numberToken?, if_neg (by simp [hinteger]), hvalue]
    rfl
  infinite := by
    intro hinteger hle
    apply number_of_none
    rw [numberToken?, if_neg (by simp [hinteger]), l.toBinary64_spec.2 hle]
    rfl

end Scan

namespace Source

theorem next_number {s : Source} (h : Scan.BeginsNumber s.skipBlanks.rest) :
    ∃ l : Literal, l.WellFormed ∧ Longest numerals s.skipBlanks.rest l.text ∧
      Scan.ReadsNumber l s.skipBlanks.position s.next.1 ∧
      s.next.2 = s.skipBlanks.advance l.text := by
  obtain ⟨l, hl⟩ := h.scan
  obtain ⟨hwell, hlongest⟩ := Literal.longest_of_scan hl
  refine ⟨l, hwell, hlongest, ?_⟩
  cases hrest : s.skipBlanks.rest with
  | nil =>
    rw [hrest] at hl
    cases hl
  | cons c cs =>
    rw [hrest] at h hl
    have htoken := h.token hl s.skipBlanks.position
    have hstep : s.step? = some
        ((Scan.number s.skipBlanks.position l).result.map (⟨·, s.skipBlanks.position⟩),
          s.skipBlanks.advance l.text) := by
      unfold step?
      simp only [hrest, htoken, Scan.number_lexeme]
    rw [next_eq hstep]
    exact ⟨Scan.number_reads _ l, rfl⟩

/-- Wherever a call on a text starts at a number, the longest prefix of the rest that is written as
a number is what it takes. -/
theorem result_number {text : String} {n i : Nat}
    (hstart : ((ofText text).afterCalls n).skipBlanks = ofOffset text.toList i)
    (hnumber : Scan.BeginsNumber (text.toList.drop i)) :
    ∃ l : Literal, l.WellFormed ∧ Longest numerals (text.toList.drop i) l.text ∧
      Scan.ReadsNumber l (.ofOffset text.toList i) ((ofText text).result n) ∧
      (ofText text).afterCalls (n + 1) = ofOffset text.toList (i + l.text.length) := by
  have hi : i ≤ text.toList.length := by
    by_contra hlarge
    rw [List.drop_eq_nil_of_le (Nat.le_of_not_le hlarge)] at hnumber
    obtain ⟨c, more, -, hnil | hnil⟩ := hnumber <;> cases hnil
  have hbegins : Scan.BeginsNumber ((ofText text).afterCalls n).skipBlanks.rest := by
    rw [hstart]
    exact hnumber
  obtain ⟨l, hwell, hlongest, hreads, hnext⟩ := next_number hbegins
  rw [hstart] at hlongest hreads hnext
  refine ⟨l, hwell, hlongest, hreads, ?_⟩
  rw [afterCalls_succ, hnext]
  exact (advance_ofOffset hi hlongest.begins).2

theorem result_number_pointed :
    let s := ofText "-9223372036854775809 12.50e+1.5"
    let rest := "12.50e+1.5".toList
    s.result 0 = .error (.invalidNumber "-9223372036854775809" ⟨0, 1, 1⟩) ∧
      (s.afterCalls 1).skipBlanks = ofOffset "-9223372036854775809 12.50e+1.5".toList 21 ∧
      Scan.BeginsNumber rest ∧
      s.result 1 = .ok ⟨.float (.finite false ⟨125 * 2 ^ 46, 1028, by decide⟩), ⟨21, 1, 22⟩⟩ ∧
      (s.afterCalls 2).rest = ".5".toList ∧
      ∃ l : Literal, Longest numerals rest l.text ∧
        Scan.ReadsNumber l ⟨21, 1, 22⟩ (s.result 1) := by
  intro s rest
  have hstart : (s.afterCalls 1).skipBlanks =
      ofOffset "-9223372036854775809 12.50e+1.5".toList 21 := by decide +kernel
  have hnumber : Scan.BeginsNumber rest := ⟨'1', "2.50e+1.5".toList, by decide, .inl (by decide)⟩
  obtain ⟨l, -, hlongest, hreads, -⟩ := result_number hstart hnumber
  exact ⟨by decide +kernel, hstart, hnumber, by decide +kernel, by decide +kernel, l, hlongest,
    hreads⟩

end Source
end EventRouting
