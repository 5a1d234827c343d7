import EventRouting.Proofs.Decimal.LongestLiteral
import EventRouting.Proofs.Json.Arrays

set_option autoImplicit false

/-!
# Nesting as it is written

How deep a JSON text nests is a count of its brackets, those in strings apart. The machine that
reads a document opens and closes with each bracket, so the count is the nesting of the document.
-/
namespace EventRouting

/-- Where in a JSON text a character stands: outside of strings, in one, or behind a backslash in
one. -/
inductive JsonPlace
  | outside
  | inString
  | escaped

namespace JsonPlace

def next : JsonPlace → Char → JsonPlace
  | .outside, '"' => .inString
  | .outside, _ => .outside
  | .inString, '"' => .outside
  | .inString, '\\' => .escaped
  | .inString, _ => .inString
  | .escaped, _ => .inString

def depthBehind : JsonPlace → Nat → Char → Nat
  | .outside, depth, '[' | .outside, depth, '\x7b' => depth + 1
  | .outside, depth, ']' | .outside, depth, '\x7d' => depth - 1
  | _, depth, _ => depth

/-- The greatest number of arrays and objects that are open at once in the rest of a text, of which
`depth` are open already. -/
def peak (place : JsonPlace) (depth : Nat) : List Char → Nat
  | [] => depth
  | c :: cs => max depth (peak (place.next c) (place.depthBehind depth c) cs)

end JsonPlace

/-- How deep arrays and objects nest in a JSON text as it is written. -/
def writtenNesting (text : String) : Nat := JsonPlace.outside.peak 0 text.toList

namespace JsonPlace

variable {place : JsonPlace} {depth : Nat}

theorem le_peak (cs : List Char) : depth ≤ place.peak depth cs := by
  cases cs with
  | nil => exact Nat.le_refl depth
  | cons c cs => exact Nat.le_max_left _ _

theorem peak_cons {c : Char} (hdepth : place.depthBehind depth c = depth) (cs : List Char) :
    place.peak depth (c :: cs) = (place.next c).peak depth cs := by
  rw [peak, hdepth]
  exact Nat.max_eq_right (le_peak cs)

theorem peak_inString {c : Char} (hquote : c ≠ '"') (hescape : c ≠ '\\') (cs : List Char) :
    inString.peak depth (c :: cs) = inString.peak depth cs := by
  have hnext : inString.next c = .inString := by
    unfold next
    split <;> simp_all
  rw [peak_cons (by cases c; rfl), hnext]

def plain (c : Char) : Bool :=
  c != '"' && c != '[' && c != '\x7b' && c != ']' && c != '\x7d'

theorem peak_plain {front : List Char} (h : ∀ c ∈ front, plain c = true) (cs : List Char) :
    outside.peak depth (front ++ cs) = outside.peak depth cs := by
  induction front with
  | nil => rfl
  | cons c front ih =>
    obtain ⟨hc, hfront⟩ := List.forall_mem_cons.1 h
    have hnext : outside.next c = .outside := by
      unfold next
      split <;> simp_all [plain]
    have hdepth : outside.depthBehind depth c = depth := by
      unfold depthBehind
      split <;> simp_all [plain]
    rw [List.cons_append, peak_cons hdepth, hnext, ih hfront]

theorem plain_of_isNumeral {c : Char} (h : Decimal.isNumeral c = true) : plain c = true := by
  simp only [plain, Bool.and_eq_true, bne_iff_ne]
  refine ⟨⟨⟨⟨?_, ?_⟩, ?_⟩, ?_⟩, ?_⟩ <;> rintro rfl <;> revert h <;> decide

end JsonPlace

namespace JsonToken

open JsonPlace (inString outside)

theorem ne_of_hexDigit? {c : Char} {n : Nat} (h : Text.hexDigit? c = some n) :
    c ≠ '"' ∧ c ≠ '\\' := by
  constructor <;> rintro rfl <;> cases h

theorem peak_pieces? {cs : List Char} {pieces : List JsonPiece} {length : Nat}
    (h : pieces? cs = some (pieces, length)) (depth : Nat) :
    inString.peak depth cs = outside.peak depth (cs.drop length) := by
  fun_induction pieces? cs generalizing pieces length with
  | case1 => cases h
  | case2 behind =>
    cases h
    exact JsonPlace.peak_cons rfl behind
  | case3 a b c d behind ih =>
    simp only [Option.bind_eq_bind, Option.bind_eq_some_iff] at h
    obtain ⟨code, hcode, ⟨more, n⟩, hmore, ⟨⟩⟩ := h
    simp only [unit?, Option.bind_eq_bind, Option.bind_eq_some_iff] at hcode
    obtain ⟨_, ha, _, hb, _, hc, _, hd, -⟩ := hcode
    have hplain {c : Char} {n : Nat} (hc : Text.hexDigit? c = some n) (cs : List Char) :
        inString.peak depth (c :: cs) = inString.peak depth cs :=
      JsonPlace.peak_inString (ne_of_hexDigit? hc).1 (ne_of_hexDigit? hc).2 cs
    rw [JsonPlace.peak_cons rfl, JsonPlace.peak_cons rfl]
    show inString.peak depth (a :: b :: c :: d :: behind) = _
    rw [hplain ha, hplain hb, hplain hc, hplain hd, ih hmore]
    rfl
  | case4 c behind hunit ih =>
    simp only [Option.bind_eq_bind, Option.bind_eq_some_iff] at h
    obtain ⟨c', hc, ⟨more, n⟩, hmore, ⟨⟩⟩ := h
    rw [JsonPlace.peak_cons rfl, JsonPlace.peak_cons rfl]
    show inString.peak depth behind = _
    rw [ih hmore]
    rfl
  | case5 c behind hquote hunit hescape ih =>
    obtain ⟨_, hguard, h⟩ := Option.bind_eq_some_iff.1 h
    obtain ⟨⟨more, n⟩, hmore, ⟨⟩⟩ := Option.bind_eq_some_iff.1 h
    have hbackslash : c ≠ '\\' := by
      rintro rfl
      cases behind with
      | nil => cases hmore
      | cons d behind => exact hescape d behind rfl rfl
    rw [JsonPlace.peak_inString hquote hbackslash, ih hmore]
    rfl

def depthBehind (depth : Nat) : JsonToken → Nat
  | .beginArray | .beginObject => depth + 1
  | .endArray | .endObject => depth - 1
  | _ => depth

def peak (depth : Nat) : List JsonToken → Nat
  | [] => depth
  | t :: ts => max depth (peak (t.depthBehind depth) ts)

def Flat : JsonToken → Prop
  | .scalar value => value.nesting = 0
  | _ => True

theorem le_peak {depth : Nat} (ts : List JsonToken) : depth ≤ peak depth ts := by
  cases ts with
  | nil => exact Nat.le_refl depth
  | cons t ts => exact Nat.le_max_left _ _

theorem max_peak (depth : Nat) (cs : List Char) :
    max depth (outside.peak depth cs) = outside.peak depth cs :=
  Nat.max_eq_right (JsonPlace.le_peak cs)

theorem peak_scan? {c : Char} {cs : List Char} {t : JsonToken} {length : Nat}
    (h : scan? c cs = some (t, length)) (depth : Nat) :
    t.Flat ∧ outside.peak depth (c :: cs) =
      max depth (outside.peak (t.depthBehind depth) (cs.drop length)) := by
  unfold scan? at h
  split at h
  case h_7 => -- a string
    simp only [Option.map_eq_some_iff] at h
    obtain ⟨⟨pieces, n⟩, hpieces, ⟨⟩⟩ := h
    refine ⟨trivial, ?_⟩
    rw [JsonPlace.peak_cons rfl]
    exact (peak_pieces? hpieces depth).trans (max_peak depth _).symm
  case h_8 rest => -- a word
    cases h
    have hplain : ∀ c ∈ ['n', 'u', 'l', 'l'], JsonPlace.plain c = true :=
      List.all_eq_true.1 rfl
    exact ⟨rfl, (JsonPlace.peak_plain hplain rest).trans (max_peak depth rest).symm⟩
  case h_9 rest =>
    cases h
    have hplain : ∀ c ∈ ['t', 'r', 'u', 'e'], JsonPlace.plain c = true :=
      List.all_eq_true.1 rfl
    exact ⟨rfl, (JsonPlace.peak_plain hplain rest).trans (max_peak depth rest).symm⟩
  case h_10 rest =>
    cases h
    have hplain : ∀ c ∈ ['f', 'a', 'l', 's', 'e'], JsonPlace.plain c = true :=
      List.all_eq_true.1 rfl
    exact ⟨rfl, (JsonPlace.peak_plain hplain rest).trans (max_peak depth rest).symm⟩
  case h_11 => -- a number
    obtain ⟨l, hl, h⟩ := Option.bind_eq_some_iff.1 h
    obtain ⟨_, -, ⟨⟩⟩ := Option.bind_eq_some_iff.1 h
    refine ⟨rfl, ?_⟩
    obtain ⟨hwell, hlongest⟩ := Decimal.Literal.longest_of_scan hl
    obtain ⟨rest, hrest⟩ := hlongest.begins
    have hdrop : cs.drop (l.text.length - 1) = rest := by
      have htext := List.ne_nil_iff_length_pos.1 (Decimal.Literal.text_ne_nil_of_scan hl)
      have hsucc : l.text.length - 1 + 1 = l.text.length := Nat.sub_add_cancel htext
      rw [← List.drop_succ_cons (a := c), hsucc, ← hrest, List.drop_left]
    rw [hdrop, ← hrest]
    refine (JsonPlace.peak_plain (fun c hc => ?_) rest).trans (max_peak depth rest).symm
    exact JsonPlace.plain_of_isNumeral (hwell.numerals c hc)
  all_goals -- a single character
    cases h
    exact ⟨trivial, rfl⟩

theorem peak_tokens? {cs : List Char} {ts : List JsonToken} (h : tokens? cs = some ts)
    (depth : Nat) : (∀ t ∈ ts, t.Flat) ∧ outside.peak depth cs = peak depth ts := by
  fun_induction tokens? cs generalizing ts depth with
  | case1 =>
    cases h
    exact ⟨by simp, rfl⟩
  | case2 c cs hspace ih =>
    refine ⟨(ih h depth).1, ?_⟩
    have hplain : ∀ d ∈ [c], JsonPlace.plain d = true := by
      refine List.forall_mem_singleton.2 ?_
      simp only [isSpace, Bool.or_eq_true, decide_eq_true_eq] at hspace
      rcases hspace with ((rfl | rfl) | rfl) | rfl <;> rfl
    exact (JsonPlace.peak_plain hplain cs).trans (ih h depth).2
  | case3 c cs hspace hscan => cases h
  | case4 c cs hspace t length hscan ih =>
    obtain ⟨more, hmore, rfl⟩ := Option.map_eq_some_iff.1 h
    obtain ⟨hflat, hpeak⟩ := peak_scan? hscan depth
    obtain ⟨hrest, hbehind⟩ := ih hmore (t.depthBehind depth)
    exact ⟨List.forall_mem_cons.2 ⟨hflat, hrest⟩, by rw [hpeak, hbehind, peak]⟩

end JsonToken

namespace Document

def Frame.nesting : Frame → Nat
  | .array items => maxNesting items
  | .object members _ => memberNesting members

/-- How deep the open arrays and objects, and what was read in them, nest. -/
def stackReach : List Frame → Nat
  | [] => 0
  | frame :: stack => max (stackReach stack) (stack.length + 1 + frame.nesting)

namespace State

def depth : State → Nat
  | ⟨.firstKey, stack⟩ | ⟨.key _, stack⟩ | ⟨.colon _ _, stack⟩ => stack.length + 1
  | ⟨_, stack⟩ => stack.length

/-- How deep everything that was read nests. -/
def reach : State → Nat
  | ⟨.firstKey, stack⟩ => max (stackReach stack) (stack.length + 1)
  | ⟨.key members, stack⟩ | ⟨.colon members _, stack⟩ =>
    max (stackReach stack) (stack.length + 1 + memberNesting members)
  | ⟨.after value, stack⟩ => max (stackReach stack) (stack.length + value.nesting)
  | ⟨_, stack⟩ => stackReach stack

end State

theorem length_le_stackReach (stack : List Frame) : stack.length ≤ stackReach stack := by
  cases stack with
  | nil => exact Nat.le_refl 0
  | cons frame stack =>
    rw [stackReach, List.length_cons]
    omega

theorem depth_le_reach (s : State) : s.depth ≤ s.reach := by
  obtain ⟨phase, stack⟩ := s
  have := length_le_stackReach stack
  cases phase <;> simp only [State.depth, State.reach] <;> omega

theorem maxNesting_reverse (items : List Document) :
    maxNesting items.reverse = maxNesting items := by
  refine Nat.le_antisymm ?_ ?_ <;> rw [maxNesting_le_iff] <;> intro d hd <;>
    exact maxNesting_le_iff.1 (Nat.le_refl _) d (by simpa using hd)

theorem memberNesting_le_iff {members : List (List JsonPiece × Document)} {n : Nat} :
    memberNesting members ≤ n ↔ ∀ m ∈ members, m.2.nesting ≤ n := by
  induction members with
  | nil => simp [memberNesting]
  | cons m members ih => rw [memberNesting, Nat.max_le, ih, List.forall_mem_cons]

theorem memberNesting_reverse (members : List (List JsonPiece × Document)) :
    memberNesting members.reverse = memberNesting members := by
  refine Nat.le_antisymm ?_ ?_ <;> rw [memberNesting_le_iff] <;> intro m hm <;>
    exact memberNesting_le_iff.1 (Nat.le_refl _) m (by simpa using hm)

theorem beginValue?_reach {stack : List Frame} {t : JsonToken} {s : State} (hflat : t.Flat)
    (h : beginValue? stack t = some s) :
    s.depth = t.depthBehind stack.length ∧ s.reach = max (stackReach stack) s.depth := by
  have := length_le_stackReach stack
  cases t with
  | scalar value =>
    cases h
    have hvalue : value.nesting = 0 := hflat
    refine ⟨rfl, ?_⟩
    simp only [State.depth, State.reach, hvalue]
    omega
  | text | beginArray | beginObject =>
    cases h
    exact ⟨rfl, rfl⟩
  | _ => cases h

def Fresh (s : State) : Prop :=
  s.phase = .firstItem → ∃ stack, s.stack = .array [] :: stack

theorem fresh_of_beginValue? {stack : List Frame} {t : JsonToken} {s : State}
    (h : beginValue? stack t = some s) : Fresh s := by
  cases t with
  | beginArray =>
    cases h
    exact fun _ => ⟨stack, rfl⟩
  | _ => cases h <;> exact nofun

theorem Fresh.step {s s' : State} {t : JsonToken} (h : step? s t = some s') : Fresh s' := by
  unfold step? at h
  split at h
  case h_1 | h_3 => exact fresh_of_beginValue? h
  all_goals cases h <;> exact nofun

/-- A token opens or closes what the count of brackets says, and nothing else adds to the
nesting. -/
theorem step?_reach {s s' : State} {t : JsonToken} (hfresh : Fresh s) (hflat : t.Flat)
    (h : step? s t = some s') :
    s'.depth = t.depthBehind s.depth ∧ s'.reach = max s.reach s'.depth := by
  unfold step? at h
  split at h
  case h_1 | h_3 => exact beginValue?_reach hflat h
  case h_12 => cases h
  case h_2 => -- the end of an array without items
    obtain ⟨stack, hstack⟩ := hfresh rfl
    cases hstack
    cases h
    exact ⟨by simp [State.depth, JsonToken.depthBehind], by
      simp only [State.depth, State.reach, stackReach, Frame.nesting, maxNesting, nesting]
      omega⟩
  all_goals
    cases h
    refine ⟨by simp [State.depth, JsonToken.depthBehind], ?_⟩
    have := length_le_stackReach ‹List Frame›
    simp only [State.depth, State.reach, stackReach, Frame.nesting, maxNesting, memberNesting,
      nesting, maxNesting_reverse, memberNesting_reverse, List.length_cons]
    omega

theorem run_reach {s s' : State} {ts : List JsonToken} (hfresh : Fresh s) (hflat : ∀ t ∈ ts, t.Flat)
    (h : ts.foldlM step? s = some s') : s'.reach = max s.reach (JsonToken.peak s.depth ts) := by
  induction ts generalizing s with
  | nil =>
    cases h
    exact (Nat.max_eq_left (depth_le_reach _)).symm
  | cons t ts ih =>
    obtain ⟨hfirst, hrest⟩ := List.forall_mem_cons.1 hflat
    obtain ⟨next, hstep, hrun⟩ := run_cons h
    obtain ⟨hdepth, hreach⟩ := step?_reach hfresh hfirst hstep
    have hle := depth_le_reach s
    have hpeak : next.depth ≤ JsonToken.peak next.depth ts := JsonToken.le_peak ts
    rw [ih (.step hstep) hrest hrun, hreach, JsonToken.peak, ← hdepth]
    omega

/-- A document nests as deep as the text that it is read from. -/
theorem writtenNesting_eq {text : String} {d : Document} (h : ofText? text = some d) :
    writtenNesting text = d.nesting := by
  obtain ⟨ts, htokens, hts⟩ := ofText?_eq_some.1 h
  obtain ⟨hflat, hpeak⟩ := JsonToken.peak_tokens? htokens 0
  have hfresh : Fresh ⟨.value, []⟩ := nofun
  have hreach := run_reach hfresh hflat (run_of_ofTokens? hts)
  have hstart : State.reach ⟨.value, []⟩ = 0 := rfl
  have hend : State.reach ⟨.after d, []⟩ = d.nesting := by
    simp [State.reach, stackReach]
  rw [writtenNesting, hpeak, ← hend, hreach, hstart, Nat.zero_max]
  rfl

theorem run_after {value : Document} {s : State} {ts : List JsonToken}
    (h : ts.foldlM step? ⟨.after value, []⟩ = some s) : s = ⟨.after value, []⟩ := by
  cases ts with
  | nil =>
    cases h
    rfl
  | cons t ts =>
    obtain ⟨next, hstep, -⟩ := run_cons h
    cases t <;> cases hstep

theorem beginObject_of_object {ts : List JsonToken} {members : List (List JsonPiece × Document)}
    (hflat : ∀ t ∈ ts, t.Flat) (h : ofTokens? ts = some (.object members)) :
    ∃ more, ts = .beginObject :: more := by
  cases ts with
  | nil => cases h
  | cons t ts =>
    obtain ⟨next, hstep, hrun⟩ := run_cons (run_of_ofTokens? h)
    have hbegin : beginValue? [] t = some next := hstep
    cases t with
    | beginObject => exact ⟨ts, rfl⟩
    | beginArray =>
      obtain ⟨items, hitems⟩ := array_of_beginArray h
      cases hitems
    | scalar value =>
      cases hbegin
      obtain rfl : Document.object members = value :=
        Phase.after.inj (congrArg State.phase (run_after hrun))
      have hnesting : 1 + memberNesting members = 0 := hflat _ List.mem_cons_self
      omega
    | text =>
      cases hbegin
      cases run_after hrun
    | _ => cases hbegin

end Document

theorem JsonToken.eq_of_beginObject {c : Char} {cs : List Char} {length : Nat}
    (h : scan? c cs = some (.beginObject, length)) : c = '\x7b' := by
  unfold scan? at h
  split at h
  case h_3 => rfl
  case h_7 =>
    obtain ⟨_, -, hscan⟩ := Option.map_eq_some_iff.1 h
    cases hscan
  case h_11 =>
    obtain ⟨l, -, h⟩ := Option.bind_eq_some_iff.1 h
    obtain ⟨_, -, hscan⟩ := Option.bind_eq_some_iff.1 h
    cases hscan
  all_goals cases h

end EventRouting
