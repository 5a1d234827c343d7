import Mathlib.Data.List.DropRight
import Mathlib.Logic.Function.Iterate
import EventRouting.Proofs.Statement.Locality

set_option autoImplicit false

/-!
# Scanning partitions a text

The calls of `next` on a text, one after the other, also behind faults: each goes on where the one
before it stopped, skips blanks only, and names the offset, line and column at which its token or
fault begins. The end token comes when nothing but blanks is left, and then time and again. So a
whole statement is scanned by at most one call more than it has characters.
-/
namespace EventRouting

namespace Position

/-- The position of an offset in a text: how many lines were ended before it, and how much of its
own line stands before it. -/
def ofOffset (text : List Char) (offset : Nat) : Position :=
  ⟨offset, 1 + (text.take offset).count '\n',
    1 + ((text.take offset).rtakeWhile (· ≠ '\n')).length⟩

theorem start_after (cs rest : List Char) :
    start.after cs = ofOffset (cs ++ rest) cs.length := by
  rw [ofOffset, List.take_left]
  induction cs using List.reverseRecOn with
  | nil => rfl
  | append_singleton cs c ih =>
    rw [after_append, ih]
    change next _ c = _
    by_cases hc : c = '\n'
    · simp [next, hc, Nat.add_assoc]
    · simp [next, hc, Nat.add_assoc]

end Position

namespace Source

variable {text : List Char} {i : Nat}

def ofOffset (text : List Char) (offset : Nat) : Source :=
  ⟨text.drop offset, .ofOffset text offset⟩

theorem ofText_eq (text : String) : ofText text = ofOffset text.toList 0 := rfl

theorem advance_ofOffset (hi : i ≤ text.length) {cs : List Char} (h : cs <+: text.drop i) :
    i + cs.length ≤ text.length ∧
      (ofOffset text i).advance cs = ofOffset text (i + cs.length) := by
  obtain ⟨rest, hrest⟩ := h
  have hlength : (text.take i).length = i := List.length_take_of_le hi
  have htext : text.take i ++ cs ++ rest = text := by
    rw [List.append_assoc, hrest, List.take_append_drop]
  have hbefore := Position.start_after (text.take i) (cs ++ rest)
  have hbehind := Position.start_after (text.take i ++ cs) rest
  rw [← List.append_assoc, htext, hlength] at hbefore
  rw [htext, Position.after_append, hbefore, List.length_append, hlength] at hbehind
  constructor
  · have htotal := congrArg List.length htext
    simp only [List.length_append, hlength] at htotal
    omega
  · simp only [advance, ofOffset, List.drop_drop]
    rw [hbehind]

theorem skipBlanks_ofOffset (hi : i ≤ text.length) :
    ∃ j, i ≤ j ∧ j ≤ text.length ∧ (ofOffset text i).skipBlanks = ofOffset text j ∧
      (∀ c ∈ text.extract i j, Text.isBlank c = true) ∧
      ∀ c ∈ text[j]?, Text.isBlank c = false := by
  have hprefix : (text.drop i).takeWhile Text.isBlank <+: text.drop i := List.takeWhile_prefix _
  obtain ⟨hle, hadvance⟩ := advance_ofOffset hi hprefix
  have hskip : (ofOffset text i).skipBlanks =
      ofOffset text (i + ((text.drop i).takeWhile Text.isBlank).length) := hadvance
  refine ⟨_, Nat.le_add_right _ _, hle, hskip, ?_, ?_⟩
  · have htake := List.prefix_iff_eq_take.1 hprefix
    rw [List.extract_eq_take_drop, Nat.add_sub_cancel_left, ← htake]
    exact List.all_eq_true.1 List.all_takeWhile
  · obtain ⟨-, -, -, hhead⟩ := (ofOffset text i).skipBlanks_split
    rw [hskip] at hhead
    rw [← List.head?_drop]
    exact hhead

end Source

namespace Scan

theorem error_position {p : Position} {c : Char} {cs : List Char} {e : LexError}
    (h : (token p c cs).result = .error e) : e.position = p := by
  unfold token at h
  split at h
  · cases h
  · split at h
    · cases h
    · split at h
      · unfold quoted at h
        split at h
        · cases h
        · cases h
          rfl
      · split at h
        · unfold number at h
          split at h
          · cases h
          · cases h
            rfl
        · split at h <;> cases h

theorem token_ne_eof {p : Position} {c : Char} {cs : List Char} :
    (token p c cs).result ≠ .ok .eof := by
  intro h
  rcases token_writable h with hwritable | ⟨text, htext⟩
  · exact hwritable
  · cases htext

end Scan

namespace Source

def foundAt : Except LexError Placed → Position
  | .ok t => t.position
  | .error e => e.position

/-- One call on a text that is read up to `i`: it skips blanks up to `j`, gives what begins there,
and leaves the text read up to `k`. -/
structure Call (text : List Char) (i j k : Nat) (result : Except LexError Placed) : Prop where
  ordered : i ≤ j ∧ j ≤ k ∧ k ≤ text.length
  skips : ∀ c ∈ text.extract i j, Text.isBlank c = true
  begins : ∀ c ∈ text[j]?, Text.isBlank c = false
  position : foundAt result = .ofOffset text j
  ends_iff : (∃ p, result = .ok ⟨.eof, p⟩) ↔ j = text.length
  takes : j < text.length → j < k

section

variable {text : List Char} {i j : Nat}

theorem call_end (hij : i ≤ j) (hskips : ∀ c ∈ text.extract i j, Text.isBlank c = true)
    (hend : j = text.length) : Call text i j j (.ok ⟨.eof, .ofOffset text j⟩) where
  ordered := ⟨hij, Nat.le_refl j, Nat.le_of_eq hend⟩
  skips := hskips
  begins := by simp [hend]
  position := rfl
  ends_iff := ⟨fun _ => hend, fun _ => ⟨_, rfl⟩⟩
  takes := fun hlt => absurd hend (Nat.ne_of_lt hlt)

theorem call_token {c : Char} {cs : List Char} (hij : i ≤ j)
    (hskips : ∀ c ∈ text.extract i j, Text.isBlank c = true)
    (hbegins : ∀ c ∈ text[j]?, Text.isBlank c = false) (hrest : text.drop j = c :: cs)
    {outcome : Scan.Outcome} (houtcome : Scan.token (.ofOffset text j) c cs = outcome)
    (hle : j + outcome.lexeme.length ≤ text.length) :
    Call text i j (j + outcome.lexeme.length)
      (outcome.result.map (⟨·, .ofOffset text j⟩)) where
  ordered := ⟨hij, Nat.le_add_right _ _, hle⟩
  skips := hskips
  begins := hbegins
  position := by
    subst houtcome
    cases hresult : (Scan.token (.ofOffset text j) c cs).result with
    | ok t => rfl
    | error e => exact Scan.error_position hresult
  ends_iff := by
    have hne : j ≠ text.length := by
      rintro rfl
      simp at hrest
    refine iff_of_false ?_ hne
    rintro ⟨p, hp⟩
    subst houtcome
    cases hresult : (Scan.token (.ofOffset text j) c cs).result with
    | ok t =>
      rw [hresult] at hp
      cases hp
      exact Scan.token_ne_eof hresult
    | error e =>
      rw [hresult] at hp
      cases hp
  takes := by
    intro _
    subst houtcome
    exact Nat.lt_add_of_pos_right (List.length_pos_iff.2 (Scan.lexeme_ne_nil _ c cs))

theorem next_ofOffset (hi : i ≤ text.length) :
    ∃ j k, Call text i j k (ofOffset text i).next.1 ∧
      (ofOffset text i).next.2 = ofOffset text k := by
  obtain ⟨j, hij, hj, hskip, hskips, hbegins⟩ := skipBlanks_ofOffset hi
  unfold next step? endToken
  simp only [hskip]
  split
  · rename_i hrest
    have hend : j = text.length := Nat.le_antisymm hj (List.drop_eq_nil_iff.1 hrest)
    exact ⟨j, j, call_end hij hskips hend, rfl⟩
  · rename_i c cs hrest
    have hrest : text.drop j = c :: cs := hrest
    have hfront := Scan.lexeme_front (.ofOffset text j) c cs
    rw [← hrest] at hfront
    obtain ⟨hk, hadvance⟩ := advance_ofOffset hj hfront
    exact ⟨j, _, call_token hij hskips hbegins hrest rfl hk, hadvance⟩

theorem Call.eq_end {k : Nat} {result : Except LexError Placed} (h : Call text i j k result)
    (hend : j = text.length) : result = .ok ⟨.eof, .ofOffset text text.length⟩ := by
  obtain ⟨p, rfl⟩ := h.ends_iff.2 hend
  have hp : p = .ofOffset text j := h.position
  rw [hp, hend]

end

/-- A source after some calls of `next`. -/
def afterCalls (s : Source) (n : Nat) : Source := (fun s => s.next.2)^[n] s

def result (s : Source) (n : Nat) : Except LexError Placed := (s.afterCalls n).next.1

theorem afterCalls_succ (s : Source) (n : Nat) :
    s.afterCalls (n + 1) = (s.afterCalls n).next.2 :=
  Function.iterate_succ_apply' _ n s

theorem result_succ (s : Source) (n : Nat) : s.result (n + 1) = s.next.2.result n := rfl

section

variable (text : String)

theorem afterCalls_ofOffset (n : Nat) :
    ∃ i ≤ text.toList.length, (ofText text).afterCalls n = ofOffset text.toList i := by
  induction n with
  | zero => exact ⟨0, Nat.zero_le _, ofText_eq text⟩
  | succ n ih =>
    obtain ⟨i, hi, hbefore⟩ := ih
    obtain ⟨j, k, hcall, hbehind⟩ := next_ofOffset hi
    refine ⟨k, hcall.ordered.2.2, ?_⟩
    rw [afterCalls_succ, hbefore, hbehind]

theorem call_result (n : Nat) :
    (ofText text).afterCalls n =
        ofOffset text.toList ((ofText text).afterCalls n).position.offset ∧
      Call text.toList ((ofText text).afterCalls n).position.offset
        (foundAt ((ofText text).result n)).offset
        ((ofText text).afterCalls (n + 1)).position.offset ((ofText text).result n) := by
  obtain ⟨i, hi, hbefore⟩ := afterCalls_ofOffset text n
  obtain ⟨j, k, hcall, hbehind⟩ := next_ofOffset hi
  rw [afterCalls_succ, result, hbefore, hbehind, hcall.position]
  exact ⟨rfl, hcall⟩

theorem result_end {n m : Nat} (h : ∃ p, (ofText text).result n = .ok ⟨.eof, p⟩) (hm : n ≤ m) :
    (ofText text).result m = .ok ⟨.eof, .ofOffset text.toList text.toList.length⟩ := by
  induction m, hm using Nat.le_induction with
  | base =>
    have hcall := (call_result text n).2
    exact hcall.eq_end (hcall.ends_iff.1 h)
  | succ m hm ih =>
    have hcall := (call_result text m).2
    have hnext := (call_result text (m + 1)).2
    have hstart := hcall.ends_iff.1 ⟨_, ih⟩
    have horder := hcall.ordered
    have horder' := hnext.ordered
    exact hnext.eq_end (by omega)

end

def isLast : Except LexError Placed → Bool
  | .ok ⟨.eof, _⟩ => true
  | .ok ⟨.invalid _, _⟩ => true
  | .ok _ => false
  | .error _ => true

def answer (read : List Placed) : Except LexError Placed → Except LexError (List Placed)
  | .ok ⟨.invalid text, p⟩ => .error (.unrecognized text p)
  | .ok t => .ok (read ++ [t])
  | .error e => .error e

/-- A statement is read by a call for each token before the last result, and one for that. -/
structure ReadBy (s : Source) (read : List Placed) : Prop where
  before : ∀ k t, read[k]? = some t → s.result k = .ok t ∧ isLast (.ok t) = false
  last : isLast (s.result read.length) = true
  tokens_eq : s.tokens = answer read (s.result read.length)

theorem next_eq {s : Source} {r : Except LexError Placed × Source} (h : s.step? = some r) :
    s.next = r := by
  rw [next, h]
  rfl

theorem next_eq_end {s : Source} (h : s.step? = none) : s.next.1 = .ok s.endToken := by
  rw [next, h]
  rfl

theorem readBy_nil {s : Source} {r : Except LexError Placed} (hresult : s.next.1 = r)
    (hlast : isLast r = true) (htokens : s.tokens = answer [] r) : ReadBy s [] := by
  subst hresult
  exact ⟨by simp, hlast, htokens⟩

theorem answer_cons (t : Placed) (read : List Placed) (r : Except LexError Placed) :
    answer (t :: read) r = (answer read r).map (t :: ·) := by
  unfold answer
  split <;> rfl

theorem ReadBy.cons {s s' : Source} {t : Placed} {read : List Placed} (h : ReadBy s' read)
    (hnext : s.next = (.ok t, s')) (ht : isLast (.ok t) = false)
    (htokens : s.tokens = s'.tokens.map (t :: ·)) : ReadBy s (t :: read) := by
  have hbehind (n : Nat) : s.result (n + 1) = s'.result n := by rw [result_succ, hnext]
  refine ⟨fun k u hk => ?_, ?_, ?_⟩
  · cases k with
    | zero =>
      obtain rfl : t = u := by simpa using hk
      exact ⟨congrArg Prod.fst hnext, ht⟩
    | succ k =>
      rw [hbehind]
      exact h.before k u (by simpa using hk)
  · rw [List.length_cons, hbehind]
    exact h.last
  · rw [List.length_cons, hbehind, htokens, h.tokens_eq, answer_cons]

theorem exists_readBy (s : Source) : ∃ read, read.length ≤ s.rest.length ∧ ReadBy s read := by
  induction s using Source.tokens.induct with
  | case1 s hstep =>
    refine ⟨[], Nat.zero_le _, readBy_nil (next_eq_end hstep) rfl ?_⟩
    rw [tokens_eq, hstep]
    rfl
  | case2 s e s' hstep =>
    refine ⟨[], Nat.zero_le _, readBy_nil (congrArg Prod.fst (next_eq hstep)) rfl ?_⟩
    rw [tokens_eq, hstep]
    rfl
  | case3 s t s' hstep text ht =>
    obtain ⟨token, p⟩ := t
    cases ht
    refine ⟨[], Nat.zero_le _, readBy_nil (congrArg Prod.fst (next_eq hstep)) rfl ?_⟩
    rw [tokens_eq, hstep]
    rfl
  | case4 s t s' hstep hvalid ih =>
    obtain ⟨read, hlength, hread⟩ := ih
    have hshorter := step?_rest_length hstep
    have hlast : isLast (.ok t) = false := by
      obtain ⟨token, p⟩ := t
      rcases step?_writable hstep with hwritable | ⟨text, htext⟩
      · cases token with
        | eof => exact hwritable.elim
        | invalid _ => exact hwritable.elim
        | _ => rfl
      · exact absurd htext (hvalid text)
    have htokens : s.tokens = s'.tokens.map (t :: ·) := by
      rw [tokens_eq, hstep]
      dsimp only
      split
      · rename_i text htext
        exact absurd htext (hvalid text)
      · rfl
    exact ⟨t :: read, Nat.le_trans (Nat.succ_le_succ hlength) hshorter,
      hread.cons (next_eq hstep) hlast htokens⟩

theorem tokens_ascending {text : List Char} {s : Source} {placed : List Placed}
    (h : s.tokens = .ok placed) : ∀ i ≤ text.length, s = ofOffset text i →
      (∀ t ∈ placed, i ≤ t.position.offset) ∧
      placed.Pairwise fun t u => t.position.offset < u.position.offset := by
  refine tokens_induction (motive := fun s placed => ∀ i ≤ text.length, s = ofOffset text i →
    (∀ t ∈ placed, i ≤ t.position.offset) ∧
    placed.Pairwise fun t u => t.position.offset < u.position.offset) ?done ?more h
  case done =>
    rintro s hstep i hi rfl
    obtain ⟨j, hij, -, hskip, -⟩ := skipBlanks_ofOffset hi
    simp only [List.mem_singleton, forall_eq, List.pairwise_singleton, and_true]
    rw [endToken, hskip]
    exact hij
  case more =>
    rintro s t s' others hstep hwritable ih i hi rfl
    obtain ⟨j, k, hcall, hbehind⟩ := next_ofOffset hi
    rw [next_eq hstep] at hcall hbehind
    have hposition : t.position.offset = j := congrArg Position.offset hcall.position
    have hne : j ≠ text.length := by
      intro hend
      obtain ⟨p, hp⟩ := hcall.ends_iff.2 hend
      cases hp
      exact hwritable
    have horder := hcall.ordered
    have htakes := hcall.takes (by omega)
    obtain ⟨hothers, hpairwise⟩ := ih k horder.2.2 hbehind
    have hlater : ∀ u ∈ others, t.position.offset < u.position.offset := by
      intro u hu
      have := hothers u hu
      omega
    refine ⟨fun u hu => ?_, List.pairwise_cons.2 ⟨hlater, hpairwise⟩⟩
    rcases List.mem_cons.1 hu with rfl | hu
    · omega
    · have := hlater u hu
      omega

/-- The calls on a text read it piece by piece, whatever they give. Behind any number of them what
is unread is the text from some offset on. The next one skips the blanks there, names the offset,
line and column of the character that its token or fault begins with, and takes at least this
character, or gives the end token if there is none, and then so does every later call. A statement
is read by at most one call more than it has characters, and its tokens stand one behind the
other. -/
theorem scanning_partitions (text : String) :
    (∀ n, (ofText text).afterCalls n =
        ofOffset text.toList ((ofText text).afterCalls n).position.offset ∧
      Call text.toList ((ofText text).afterCalls n).position.offset
        (foundAt ((ofText text).result n)).offset
        ((ofText text).afterCalls (n + 1)).position.offset ((ofText text).result n)) ∧
    (∀ n m p, (ofText text).result n = .ok ⟨.eof, p⟩ → n ≤ m →
      (ofText text).result m = .ok ⟨.eof, .ofOffset text.toList text.length⟩) ∧
    (∃ read, read.length ≤ text.length ∧ ReadBy (ofText text) read) ∧
    ∀ placed, tokenize text = .ok placed →
      placed.Pairwise fun t u => t.position.offset < u.position.offset := by
  have hlength : text.length = text.toList.length := String.length_toList.symm
  refine ⟨call_result text, fun n m p hn hm => ?_, ?_, fun placed h => ?_⟩
  · rw [hlength]
    exact result_end text ⟨p, hn⟩ hm
  · rw [hlength]
    exact exists_readBy (ofText text)
  · exact (tokens_ascending h 0 (Nat.zero_le _) (ofText_eq text)).2

theorem scanning_partitions_faults :
    let s := ofText "1 ?\n\"x"
    let placed : List Placed := [⟨.less, ⟨1, 1, 2⟩⟩, ⟨.integer 2, ⟨3, 2, 1⟩⟩, ⟨.eof, ⟨4, 2, 2⟩⟩]
    s.result 0 = .ok ⟨.integer 1, ⟨0, 1, 1⟩⟩ ∧ s.result 1 = .ok ⟨.invalid "?", ⟨2, 1, 3⟩⟩ ∧
      s.result 2 = .error (.unterminatedString ⟨4, 2, 1⟩) ∧
      s.result 3 = .ok ⟨.eof, ⟨6, 2, 3⟩⟩ ∧ 3 ≤ 100 ∧
      s.result 100 = .ok ⟨.eof, .ofOffset "1 ?\n\"x".toList "1 ?\n\"x".length⟩ ∧
      tokenize " <\n2" = .ok placed ∧
      placed.Pairwise fun t u => t.position.offset < u.position.offset := by
  intro s placed
  have hend : s.result 3 = .ok ⟨.eof, ⟨6, 2, 3⟩⟩ := by decide +kernel
  have hread : tokenize " <\n2" = .ok placed := by decide +kernel
  exact ⟨by decide +kernel, by decide +kernel, by decide +kernel, hend, by decide,
    (scanning_partitions "1 ?\n\"x").2.1 3 100 _ hend (by decide), hread,
    (scanning_partitions " <\n2").2.2.2 placed hread⟩

end Source

end EventRouting
