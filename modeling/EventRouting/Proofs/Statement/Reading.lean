import EventRouting.Proofs.Statement.Completeness
import EventRouting.Proofs.Statement.Soundness

set_option autoImplicit false

namespace EventRouting

open Fallible Cursor

/-- The tokens of a statement: those before the first end token. -/
def statementTokens (ts : List Placed) : List Token :=
  (ts.map (·.token)).takeWhile (· ≠ .eof)

theorem statementTokens_eq {placed : List Placed} {ts : List Token}
    (h : placed.map (·.token) = ts ++ [.eof]) (heof : Token.eof ∉ ts) :
    statementTokens placed = ts := by
  have hall : ∀ t ∈ ts, decide (t ≠ Token.eof) = true := by
    intro t ht
    exact decide_eq_true fun heq => heof (heq ▸ ht)
  rw [statementTokens, h, List.takeWhile_append_of_pos hall]
  simp

/-- What an expression derives from as a whole statement, and how deep that goes. -/
abbrev DerivesStatement (ts : List Placed) (e : Expr) (peak : Nat) : Prop :=
  Derives (.chain .disjunction) 0 (statementTokens ts) e peak

namespace Cursor

theorem token_eq_head? (s : Cursor) : s.token = s.tokens.head?.getD .eof := by
  unfold token tokens
  split <;> simp_all

end Cursor

theorem behind_statement (ts : List Token) :
    ts.dropWhile (· ≠ .eof) = [] ∨ ∃ rest, ts.dropWhile (· ≠ .eof) = .eof :: rest := by
  cases h : ts.dropWhile (· ≠ .eof) with
  | nil => exact .inl rfl
  | cons t rest =>
    have hhead := List.head?_dropWhile_not (· ≠ Token.eof) ts
    rw [h] at hhead
    obtain rfl : t = .eof := by simpa using hhead
    exact .inr ⟨rest, rfl⟩

theorem DerivesStatement.parse_eq {ts : List Placed} {e : Expr} {peak : Nat}
    (h : DerivesStatement ts e peak) :
    peak ≤ maxDepth ∧ parse ts = .ok e ∨
      maxDepth < peak ∧ ∃ found position, parse ts = .error (.nestingTooDeep found position) := by
  have htokens : (ofTokens ts).tokens =
      statementTokens ts ++ (ts.map (·.token)).dropWhile (· ≠ .eof) :=
    List.takeWhile_append_dropWhile.symm
  have hbehind := behind_statement (ts.map (·.token))
  generalize (ts.map (·.token)).dropWhile (· ≠ .eof) = rest at htokens hbehind
  have hstops : (Level.chain .disjunction).Stops rest := by
    rcases hbehind with rfl | ⟨more, rfl⟩
    · exact Level.stops_nil _
    · exact Level.stops_cons _ (by simp)
  have hread := Derives.settles true h (Nat.zero_le _) (s := ofTokens ts) rfl htokens hstops
  rcases hread with ⟨hp, hread⟩ | ⟨hp, found, position, hread⟩
  · refine .inl ⟨hp, ?_⟩
    have hend : ((ofTokens ts).after ⟨e, (statementTokens ts).length, 0⟩).token = .eof := by
      rw [token_eq_head?, tokens_after, htokens, List.drop_left]
      rcases hbehind with rfl | ⟨more, rfl⟩ <;> rfl
    rw [parse_def, readExpression, hread]
    simp only [ok_bind, hend, pure_eq]
  · refine .inr ⟨hp, found, position, ?_⟩
    rw [parse_def, readExpression, hread, error_bind]

theorem derives_of_parse {ts : List Placed} {e : Expr} (h : parse ts = .ok e) :
    ∃ peak ≤ maxDepth, DerivesStatement ts e peak := by
  rw [parse_def] at h
  obtain ⟨all, hall, h⟩ := bind_eq_ok_iff.1 h
  obtain ⟨p, hp, derives⟩ := (readExpression_sound (Nat.zero_le _) hall).derives
  split at h
  · rename_i hend
    cases h
    have hsplit : ts.map (·.token) =
        (ofTokens ts).upTo all.taken ++ ((ofTokens ts).after all).tokens := by
      simp [upTo, tokens, after, ofTokens]
    have htaken : ∀ t ∈ (ofTokens ts).upTo all.taken, decide (t ≠ Token.eof) = true := by
      intro t ht
      exact decide_eq_true fun h => derives.eof_notMem (h ▸ ht)
    have hrest : ((ofTokens ts).after all).tokens.takeWhile (· ≠ .eof) = [] := by
      rw [token_eq_head?] at hend
      cases htokens : ((ofTokens ts).after all).tokens with
      | nil => rfl
      | cons t rest =>
        obtain rfl : t = .eof := by simpa [htokens] using hend
        rfl
    refine ⟨p, hp, ?_⟩
    rw [DerivesStatement, statementTokens, hsplit, List.takeWhile_append_of_pos htaken, hrest,
      List.append_nil]
    exact derives
  · cases h

/-- A statement's tokens are accepted exactly when they derive an expression within `maxDepth`,
the derived expression is the answer and the only one there is, and tokens that derive one only
beyond `maxDepth` fail for their nesting. -/
theorem parse_follows_grammar (ts : List Placed) :
    (∀ e, parse ts = .ok e ↔ ∃ peak ≤ maxDepth, DerivesStatement ts e peak) ∧
    (∀ e e' peak peak', DerivesStatement ts e peak → DerivesStatement ts e' peak' → e = e') ∧
    ((∃ e peak, DerivesStatement ts e peak) →
      (¬∃ e, ∃ peak ≤ maxDepth, DerivesStatement ts e peak) →
      ∃ found position, parse ts = .error (.nestingTooDeep found position)) := by
  refine ⟨fun e => ⟨derives_of_parse, ?_⟩, fun e e' p p' h h' => (h.tree_unique h').1, ?_⟩
  · rintro ⟨p, hp, h⟩
    rcases h.parse_eq with ⟨_, hparse⟩ | ⟨hdeep, _⟩
    · exact hparse
    · omega
  · rintro ⟨e, p, h⟩ hnone
    rcases h.parse_eq with ⟨hp, _⟩ | ⟨_, hparse⟩
    · exact absurd ⟨e, p, hp, h⟩ hnone
    · exact hparse

end EventRouting
