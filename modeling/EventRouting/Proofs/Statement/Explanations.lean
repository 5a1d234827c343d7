import EventRouting.Proofs.Statement.Mending

set_option autoImplicit false

/-!
# What an unexpected token explains

A parser that complains of a token tells where it stands and what would have been accepted there.
Both are right: the tokens before it begin a statement, and with any token of a kind that is named
in its place, parsing gets further. A complaint is `UnexpectedAt` an index of the tokens if it
shows the text and the position of the token with that index wherever the tokens stand.
-/
namespace EventRouting

open Fallible Cursor

def tokenAt (ps : List Placed) (i : Nat) : Token := (ps[i]?.map (·.token)).getD .eof

def positionAt (ps : List Placed) (i : Nat) : Position :=
  ((ps[i]?.or ps.getLast?).map (·.position)).getD .start

def putAt (ps : List Placed) (i : Nat) (t : Placed) : List Placed :=
  ps.take i ++ t :: ps.drop (i + 1)

def UnexpectedAt (ts : List Token) (i : Nat) (kinds : List String) : Prop :=
  i ≤ ts.length ∧ ∀ ps : List Placed, ps.map (·.token) = ts →
    parse ps = .error (.unexpected (tokenAt ps i).toText (positionAt ps i) kinds)

/-- Parsing gets past the token with an index. -/
def GoesOn (ps : List Placed) (i : Nat) : Prop :=
  (∃ e, parse ps = .ok e) ∨ (∃ found position, parse ps = .error (.nestingTooDeep found position)) ∨
    ∃ j kinds, i < j ∧ UnexpectedAt (ps.map (·.token)) j kinds

/-- What is true where a token is unexpected and one of `kinds` is expected. -/
structure Explanation (ps : List Placed) (i : Nat) (kinds : List String) : Prop where
  unexpected : UnexpectedAt (ps.map (·.token)) i kinds
  completes : ∃ more e, parse (ps.take i ++ more) = .ok e
  named : ∀ kind ∈ kinds, ∃ t : Token, t.kind = kind
  goesOn : ∀ t : Placed, t.token.kind ∈ kinds → GoesOn (putAt ps i t) i
  /-- At a missing operand `not` is named exactly if it would be accepted. -/
  negation : "integer" ∈ kinds → ∀ t : Placed, t.token = .not →
    ("not" ∈ kinds ↔ ¬∃ kinds', UnexpectedAt ((putAt ps i t).map (·.token)) i kinds')

theorem unexpected_ofTokens_skip (ps : List Placed) (i : Nat) (kinds : List String) :
    ((ofTokens ps).skip i).unexpected kinds =
      .unexpected (tokenAt ps i).toText (positionAt ps i) kinds := by
  have hhead : ps[i]? = (ps.drop i).head? := List.head?_drop.symm
  unfold unexpected token position skip ofTokens tokenAt positionAt
  rw [hhead]
  cases ps.drop i <;> rfl

inductive StatementBreaks : List Token → List Token → List String → Prop
  | inside {ts rest : List Token} {kinds : List String} :
      Breaks (.chain .disjunction) true 0 ts rest kinds → StatementBreaks ts rest kinds
  | behind {p : Nat} {ts rest : List Token} {e : Expr} {t : Token} :
      Derives (.chain .disjunction) 0 ts e p → p ≤ maxDepth →
      (Level.chain .disjunction).Stops (t :: rest) → t ≠ .eof →
      StatementBreaks ts (t :: rest) [Token.eof.toText]

namespace StatementBreaks

variable {ts rest : List Token} {kinds : List String}

theorem parse_eq {ps : List Placed} (h : StatementBreaks ts rest kinds)
    (hps : ps.map (·.token) = ts ++ rest) :
    parse ps =
      .error (.unexpected (tokenAt ps ts.length).toText (positionAt ps ts.length) kinds) := by
  rw [← unexpected_ofTokens_skip]
  simp only [parse_def, readExpression]
  cases h with
  | inside h =>
    rw [h.read_eq (s := ofTokens ps) (Nat.zero_le _) rfl hps]
    rfl
  | @behind _ _ _ e t derives hp hstops ht =>
    have htoken : ((ofTokens ps).after ⟨e, ts.length, 0⟩).token = t :=
      token_of_tokens (tokens_behind (s := ofTokens ps) hps e 0)
    rw [derives.read_eq true hp (s := ofTokens ps) rfl hps hstops, ok_bind]
    split
    · rename_i heof
      exact absurd (htoken.symm.trans heof) ht
    · rfl

theorem unexpectedAt (h : StatementBreaks ts rest kinds) :
    UnexpectedAt (ts ++ rest) ts.length kinds :=
  ⟨by simp, fun _ hps => h.parse_eq hps⟩

theorem completes {ps : List Placed} (h : StatementBreaks ts rest kinds)
    (hps : ps.map (·.token) = ts) : ∃ more e, parse (ps ++ more) = .ok e := by
  have hderives : ∃ closing e p, p ≤ maxDepth ∧
      Derives (.chain .disjunction) 0 (ts ++ closing) e p := by
    cases h with
    | inside h => exact h.completes (Nat.zero_le _)
    | behind derives hp _ _ => exact ⟨[], _, _, hp, by rwa [List.append_nil]⟩
  obtain ⟨closing, e, p, hp, derives⟩ := hderives
  let more := (closing ++ [Token.eof]).map fun t => (⟨t, .start⟩ : Placed)
  have htokens : (ps ++ more).map (·.token) = (ts ++ closing) ++ [.eof] := by
    simp [more, hps, Function.comp_def]
  rw [← statementTokens_eq htokens derives.eof_notMem] at derives
  rcases DerivesStatement.parse_eq derives with ⟨-, hparse⟩ | ⟨hdeep, -⟩
  · exact ⟨more, e, hparse⟩
  · exact absurd hp (Nat.not_le.2 hdeep)

theorem named (h : StatementBreaks ts rest kinds) : ∀ kind ∈ kinds, ∃ t : Token, t.kind = kind := by
  cases h with
  | inside h => exact h.named
  | behind _ _ _ _ => simpa using ⟨.eof, rfl⟩

theorem at_not {rest' : List Token} (h : StatementBreaks ts rest kinds)
    (hoperand : "integer" ∈ kinds) (hnot : "not" ∉ kinds) :
    StatementBreaks ts (.not :: rest') kinds := by
  cases h with
  | inside h => exact .inside (h.at_not hoperand hnot)
  | behind _ _ _ _ => simp [Token.toText] at hoperand

end StatementBreaks

/-- A statement is parsed, nests too deep, or breaks off where reading it has got to. -/
theorem Cursor.Reaches.outcome {n : Nat} {ps : List Placed}
    (h : Reaches n (.chain .disjunction) true (ofTokens ps)) :
    (∃ e, parse ps = .ok e) ∨
    (∃ found position, parse ps = .error (.nestingTooDeep found position)) ∨
    ∃ ts rest kinds, n ≤ ts.length ∧ ps.map (·.token) = ts ++ rest ∧
      StatementBreaks ts rest kinds := by
  simp only [parse_def, readExpression]
  unfold Reaches at h
  rcases hread : (ofTokens ps).read (.chain .disjunction) true with
    (⟨found, position, kinds⟩ | ⟨found, position⟩) | all
  · rw [hread] at h
    obtain ⟨ts, rest, hn, hps, h⟩ := h
    exact .inr (.inr ⟨ts, rest, kinds, hn, hps, .inside h⟩)
  · exact .inr (.inl ⟨found, position, rfl⟩)
  · rw [hread] at h
    obtain ⟨p, hp, derives⟩ := (read_sound (Nat.zero_le _) hread).derives
    by_cases heof : ((ofTokens ps).after all).token = .eof
    · exact .inl ⟨all.value, by simp [heof]⟩
    · obtain ⟨position, tail, hrest⟩ := token_eq rfl heof
      have htokens : ((ofTokens ps).after all).tokens = ((ofTokens ps).after all).token :: _ :=
        tokens_of_rest hrest
      have hstops := h.2
      rw [htokens] at hstops
      refine .inr (.inr ⟨_, _, _, h.1, ?_, .behind derives hp hstops heof⟩)
      rw [← htokens]
      exact (ofTokens ps).tokens_eq_upTo_append all.taken

theorem StatementBreaks.goesOn {ts rest rest' : List Token} {kinds : List String} {t : Token}
    {ps : List Placed} (h : StatementBreaks ts rest kinds) (ht : t.kind ∈ kinds)
    (hps : ps.map (·.token) = ts ++ t :: rest') : GoesOn ps ts.length := by
  cases h with
  | inside h =>
    have hreaches := h.reaches (s := ofTokens ps) (Nat.zero_le _) rfl hps ht fun _ _ => by decide
    refine hreaches.outcome.imp_right (Or.imp_right ?_)
    rintro ⟨ts', rest'', kinds', hn, hps', h'⟩
    exact ⟨_, kinds', hn, hps' ▸ h'.unexpectedAt⟩
  | @behind _ _ _ e _ derives hp _ _ =>
    obtain rfl := Token.eq_eof_of_kind (List.mem_singleton.1 ht)
    have htoken : ((ofTokens ps).after ⟨e, ts.length, 0⟩).token = .eof :=
      token_of_tokens (tokens_behind (s := ofTokens ps) hps e 0)
    have hread := derives.read_eq true hp (s := ofTokens ps) rfl hps (Level.stops_cons _ (by simp))
    exact .inl ⟨e, by simp only [parse_def, readExpression, hread, ok_bind, htoken, pure_eq]⟩

theorem UnexpectedAt.not_lt {ts : List Token} {i j : Nat} {kinds kinds' : List String}
    (h : UnexpectedAt ts i kinds) (hnot : ts[i]? = some .not) (h' : UnexpectedAt ts j kinds') :
    ¬i < j := by
  intro hlt
  have hi : i < ts.length := (List.getElem?_eq_some_iff.1 hnot).1
  let ps := ts.mapIdx fun k t => (⟨t, ⟨k, 1, 1⟩⟩ : Placed)
  have hps : ps.map (·.token) = ts := by simp [ps, Function.comp_def, List.mapIdx_eq_zipIdx_map]
  have hsame := (h.2 ps hps).symm.trans (h'.2 ps hps)
  simp only [Except.error.injEq, ParseError.unexpected.injEq] at hsame
  obtain ⟨htext, hposition, -⟩ := hsame
  rcases Nat.lt_or_ge j ts.length with hj | hj
  · simp [ps, positionAt, hi, hj] at hposition
    omega
  · simp [ps, tokenAt, hj, hnot, Token.toText] at htext

theorem GoesOn.not_unexpectedAt {ps : List Placed} {i : Nat} {kinds : List String} (h : GoesOn ps i)
    (hnot : (ps.map (·.token))[i]? = some .not) : ¬UnexpectedAt (ps.map (·.token)) i kinds := by
  intro h'
  have hparse := h'.2 ps rfl
  obtain ⟨e, he⟩ | ⟨_, _, hdeep⟩ | ⟨j, _, hlt, hlater⟩ := h
  · rw [hparse] at he
    cases he
  · rw [hparse] at hdeep
    cases hdeep
  · exact h'.not_lt hnot hlater hlt

theorem map_putAt {ps : List Placed} {ts rest : List Token} (t : Placed)
    (hps : ps.map (·.token) = ts ++ rest) :
    (putAt ps ts.length t).map (·.token) = ts ++ t.token :: rest.tail := by
  rw [putAt, List.map_append, List.map_take, hps, List.take_left, List.map_cons, List.map_drop, hps,
    List.drop_append, List.drop_of_length_le (Nat.le_succ _)]
  simp

/-- A parser that finds a token unexpected is right about where it is and about what would have
been accepted there. -/
theorem unexpected_explained {ps : List Placed} {found : String} {position : Position}
    {kinds : List String} (h : parse ps = .error (.unexpected found position kinds)) :
    ∃ i ≤ ps.length, found = (tokenAt ps i).toText ∧ position = positionAt ps i ∧
      Explanation ps i kinds := by
  have houtcome := (reaches (Nat.zero_le _) (.chain .disjunction) true (s := ofTokens ps)).outcome
  obtain ⟨e, he⟩ | ⟨found', position', hdeep⟩ | ⟨ts, rest, kinds', -, hps, hbreaks⟩ := houtcome
  · rw [h] at he
    cases he
  · rw [h] at hdeep
    cases hdeep
  obtain ⟨rfl, rfl, rfl⟩ : found = _ ∧ position = _ ∧ kinds = kinds' := by
    simpa [h] using hbreaks.parse_eq hps
  have hlength : ps.length = ts.length + rest.length := by
    simpa using congrArg List.length hps
  refine ⟨ts.length, by omega, rfl, rfl, ?_⟩
  have hgoesOn (t : Placed) (ht : t.token.kind ∈ kinds) : GoesOn (putAt ps ts.length t) ts.length :=
    hbreaks.goesOn ht (map_putAt t hps)
  constructor
  case unexpected => exact hps ▸ hbreaks.unexpectedAt
  case completes => exact hbreaks.completes (by rw [List.map_take, hps, List.take_left])
  case named => exact hbreaks.named
  case goesOn => exact hgoesOn
  case negation =>
    intro hoperand t ht
    have htokens := map_putAt t hps
    rw [ht] at htokens
    refine ⟨fun hnot ⟨kinds', h'⟩ => ?_, fun hnone => Decidable.byContradiction fun hnot => ?_⟩
    · exact (hgoesOn t (by rwa [ht])).not_unexpectedAt (by simp [htokens]) h'
    · exact hnone ⟨kinds, htokens ▸ (hbreaks.at_not hoperand hnot).unexpectedAt⟩

theorem unexpected_explained_missing_operand :
    let ps : List Placed := [⟨.null, ⟨0, 1, 1⟩⟩, ⟨.equal, ⟨5, 1, 6⟩⟩, ⟨.eof, ⟨7, 1, 8⟩⟩]
    parse ps = .error (.unexpected "<EOF>" ⟨7, 1, 8⟩ operandKinds) ∧
      ∃ i ≤ ps.length, "<EOF>" = (tokenAt ps i).toText ∧ ⟨7, 1, 8⟩ = positionAt ps i ∧
        Explanation ps i operandKinds := by
  intro ps
  have hleft : Derives (Chain.operand .equality) 0 [.null] .null 0 :=
    Derives.loosen (.leaf rfl) (by decide)
  have hright : BreaksBehind .equality 0 [.equal] [.eof] operandKinds :=
    .operand .equal (by decide) (.first (.first (.operand (by simp [Token.not_opens]))))
  have hbreaks : StatementBreaks [.null, .equal] [.eof] operandKinds :=
    .inside (.first (.first (.plain (by simp) (.further hleft (Nat.zero_le _) hright))))
  have h : parse ps = .error (.unexpected "<EOF>" ⟨7, 1, 8⟩ operandKinds) := hbreaks.parse_eq rfl
  exact ⟨h, unexpected_explained h⟩

end EventRouting
