import EventRouting.Proofs.Statement.Partition
import EventRouting.Statement.Compile

set_option autoImplicit false

namespace EventRouting

open Fallible

namespace Cursor

/-- A complaint is about a token of the cursor, or about the end behind them. -/
def Locates {α : Type} (s : Cursor) (x : Except ParseError (Parsed α)) : Prop :=
  ∀ e, x = .error e → ∃ n, e.position = (s.skip n).position

namespace Locates

variable {α β : Type} {s s' : Cursor} {x : Except ParseError (Parsed α)}

theorem ok (s : Cursor) (r : Parsed α) : Locates s (.ok r) := by
  intro e he
  cases he

theorem unexpected (s : Cursor) (kinds : List String) :
    Locates s (.error (s.unexpected kinds) : Except ParseError (Parsed α)) := by
  rintro e ⟨⟩
  exact ⟨0, rfl⟩

theorem tooDeep (s : Cursor) : Locates s (.error s.tooDeep : Except ParseError (Parsed α)) := by
  rintro e ⟨⟩
  exact ⟨0, rfl⟩

theorem behind (h : Locates s' x) {n : Nat} (hrest : s'.rest = s.rest.drop n)
    (hlast : s'.last = s.last) : Locates s x := by
  intro e he
  obtain ⟨m, hm⟩ := h e he
  refine ⟨n + m, hm.trans ?_⟩
  simp only [position, skip, hrest, hlast, List.drop_drop]

theorem deeper (h : Locates s.deeper x) : Locates s x :=
  h

theorem bind {f : Parsed α → Except ParseError (Parsed β)} (hx : Locates s x)
    (hf : ∀ r, Locates s (f r)) : Locates s (x >>= f) := by
  cases x with
  | ok r => exact hf r
  | error e' =>
    rintro e ⟨⟩
    exact hx e' rfl

theorem descend {n : Nat} (h : s.depth < maxDepth → Locates (s.skip n) x) :
    Locates s (if s.depth < maxDepth then x else .error (s.skip n).tooDeep) := by
  split
  · exact (h ‹_›).behind rfl rfl
  · exact (tooDeep (s.skip n)).behind rfl rfl

end Locates

theorem locates_all :
    (∀ (level : Level) (mayNegate : Bool) (s : Cursor), Locates s (s.read level mayNegate)) ∧
    (∀ s : Cursor, Locates s s.readItems) ∧
    (∀ s : Cursor, Locates s s.readMoreItems) ∧
    ∀ (c : Chain) (base : Nat) (left : Expr) (s : Cursor), Locates s (s.readChain c base left) := by
  apply readers_induct
    (fun level mayNegate s => Locates s (s.read level mayNegate))
    (fun s => Locates s s.readItems)
    (fun s => Locates s s.readMoreItems)
    (fun c base left s => Locates s (s.readChain c base left))
  case chain =>
    intro mayNegate s c ihFirst ihMore
    rw [read_chain]
    refine ihFirst.bind fun first => ?_
    exact ((ihMore first).behind rfl rfl).bind fun all => .ok s _
  case negation =>
    intro mayNegate s position tail hrest ih
    rw [read_not _ hrest]
    exact .descend fun hlt => (ih hlt).deeper.bind fun operand => .ok _ _
  case plain =>
    intro mayNegate s hrest ih
    rw [read_plain _ hrest]
    exact ih
  case leaf =>
    intro mayNegate s leaf hleaf
    rw [read_leaf _ hleaf]
    exact .ok s _
  case list =>
    intro mayNegate s position tail hrest ih
    rw [read_leftBracket _ hrest]
    exact .descend fun hlt => (ih hlt).deeper.bind fun items => .ok _ _
  case parens =>
    intro mayNegate s position tail hrest ih
    rw [read_leftParen _ hrest]
    refine .descend fun hlt => (ih hlt).deeper.bind fun content => ?_
    split
    · exact .ok _ _
    · exact (Locates.unexpected _ [")"]).behind rfl rfl
  case unopened =>
    intro mayNegate s hleaf hbracket hparen
    rw [read_unopened _ hleaf hbracket hparen]
    exact .unexpected s _
  case close =>
    intro s position tail hrest
    rw [readItems_close hrest]
    exact .ok s _
  case items =>
    intro s hrest ih
    rw [readItems_open hrest]
    exact ih
  case item =>
    intro s ihItem ihMore
    rw [readMoreItems_eq]
    refine ihItem.bind fun item => ?_
    split
    · exact .ok s _
    · rename_i hcomma
      have hhere : Locates (s.after item) ((s.after item).skip 1).readMoreItems :=
        (ihMore item hcomma).behind rfl rfl
      exact (hhere.behind rfl rfl).bind fun more => .ok s _
    · exact (Locates.unexpected _ [",", "]"]).behind rfl rfl
  case stop =>
    intro c base left s hop
    rw [readChain_stop hop]
    exact .ok s _
  case operand =>
    intro c base left s op n hop ihRight ihMore
    rw [readChain_operator hop]
    refine .descend fun hlt => (ihRight hlt).deeper.bind fun right => ?_
    exact ((ihMore hlt right).behind rfl rfl).bind fun more => .ok _ _

theorem position_ofTokens_skip {ps : List Placed} (h : ps ≠ []) (n : Nat) :
    ∃ t ∈ ps, ((ofTokens ps).skip n).position = t.position := by
  cases hdrop : ps.drop n with
  | nil =>
    refine ⟨ps.getLast h, List.getLast_mem h, ?_⟩
    simp [position, skip, ofTokens, hdrop, List.getLast?_eq_some_getLast h]
  | cons t rest =>
    refine ⟨t, List.mem_of_mem_drop (hdrop ▸ List.mem_cons_self), ?_⟩
    simp [position, skip, ofTokens, hdrop]

end Cursor

theorem ParseError.position_mem {ps : List Placed} (hps : ps ≠ []) {e : ParseError}
    (h : parse ps = .error e) : ∃ t ∈ ps, e.position = t.position := by
  have hread := Cursor.locates_all.1 (.chain .disjunction) true (.ofTokens ps)
  have hlocates : ∃ n, e.position = ((Cursor.ofTokens ps).skip n).position := by
    simp only [parse_def, Cursor.readExpression] at h
    cases hall : (Cursor.ofTokens ps).read (.chain .disjunction) true with
    | error e' =>
      rw [hall] at h
      cases h
      exact hread e hall
    | ok all =>
      rw [hall, ok_bind] at h
      split at h
      · cases h
      · cases h
        exact ⟨all.taken, rfl⟩
  obtain ⟨n, hn⟩ := hlocates
  obtain ⟨t, ht, hposition⟩ := Cursor.position_ofTokens_skip hps n
  exact ⟨t, ht, hn.trans hposition⟩

/-- A position of the text's own, at a character that is no blank or at the end. -/
structure Position.Marks (text : List Char) (p : Position) : Prop where
  inside : p.offset ≤ text.length
  counted : p = .ofOffset text p.offset
  begins : ∀ c ∈ text[p.offset]?, Text.isBlank c = false

namespace Source

theorem foundAt_marks (text : String) (n : Nat) :
    (foundAt ((ofText text).result n)).Marks text.toList := by
  have hcall := (call_result text n).2
  exact ⟨Nat.le_trans hcall.ordered.2.1 hcall.ordered.2.2, hcall.position, hcall.begins⟩

theorem token_marks {text : String} {placed : List Placed} (h : tokenize text = .ok placed) :
    placed ≠ [] ∧ ∀ t ∈ placed, t.position.Marks text.toList := by
  obtain ⟨read, -, hread⟩ := exists_readBy (ofText text)
  have hanswer : answer read ((ofText text).result read.length) = .ok placed := by
    rw [← hread.tokens_eq]
    exact h
  have hlast := foundAt_marks text read.length
  unfold answer at hanswer
  split at hanswer
  · cases hanswer
  · rename_i t _ hresult
    cases hanswer
    rw [hresult] at hlast
    refine ⟨by simp, fun u hu => ?_⟩
    rcases List.mem_append.1 hu with hu | hu
    · obtain ⟨k, hk⟩ := List.mem_iff_getElem?.1 hu
      have hmark := foundAt_marks text k
      rwa [(hread.before k u hk).1] at hmark
    · rwa [List.mem_singleton.1 hu]
  · cases hanswer

theorem error_marks {text : String} {e : LexError} (h : tokenize text = .error e) :
    e.position.Marks text.toList := by
  obtain ⟨read, -, hread⟩ := exists_readBy (ofText text)
  have hanswer : answer read ((ofText text).result read.length) = .error e := by
    rw [← hread.tokens_eq]
    exact h
  have hlast := foundAt_marks text read.length
  unfold answer at hanswer
  split at hanswer
  · rename_i hresult
    cases hanswer
    rwa [hresult] at hlast
  · cases hanswer
  · rename_i hresult
    cases hanswer
    rwa [hresult] at hlast

end Source

theorem Statement.compile_marks {text : String} {e : CompileError}
    (h : compile text = .error e) : e.statement = text ∧ e.position.Marks text.toList := by
  unfold compile exprOf at h
  cases htokens : tokenize text with
  | error fault =>
    rw [htokens] at h
    cases h
    exact ⟨rfl, Source.error_marks htokens⟩
  | ok placed =>
    rw [htokens] at h
    obtain ⟨hne, hmarks⟩ := Source.token_marks htokens
    cases hparse : parse placed with
    | ok expr =>
      simp only [hparse, Except.mapError] at h
      cases h
    | error fault =>
      simp only [hparse, Except.mapError] at h
      cases h
      obtain ⟨t, ht, hposition⟩ := ParseError.position_mem hne hparse
      have hmark := hmarks t ht
      rw [← hposition] at hmark
      exact ⟨rfl, hmark⟩

end EventRouting
