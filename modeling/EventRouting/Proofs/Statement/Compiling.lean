import EventRouting.Statement.Compile
import EventRouting.Proofs.Statement.Lexing
import EventRouting.Proofs.Statement.Reading

set_option autoImplicit false

namespace EventRouting

namespace Statement

variable {text : String} {s : Statement}

theorem text_of_compile (h : compile text = .ok s) : s.text = text := by
  unfold compile at h
  split at h
  · cases h
  · cases h
    rfl

theorem exprOf_of_compile (h : compile text = .ok s) : exprOf text = .ok s.expr := by
  unfold compile at h
  split at h
  · cases h
  · rename_i expr hexpr
    cases h
    exact hexpr

theorem derives_of_compile (h : compile text = .ok s) :
    ∃ placed peak, tokenize text = .ok placed ∧ peak ≤ maxDepth ∧
      DerivesStatement placed s.expr peak := by
  have hexpr := exprOf_of_compile h
  unfold exprOf at hexpr
  split at hexpr
  · cases hexpr
  · rename_i placed htokenize
    cases hparse : parse placed with
    | error fault =>
      rw [hparse] at hexpr
      cases hexpr
    | ok e =>
      rw [hparse] at hexpr
      obtain rfl : e = s.expr := Except.ok.inj hexpr
      obtain ⟨peak, hpeak, hderives⟩ := derives_of_parse hparse
      exact ⟨placed, peak, htokenize, hpeak, hderives⟩

end Statement

/-- Text whose tokens derive an expression compiles to it, unless they nest too deep. -/
theorem Reads.compile_eq {cs : List Char} {ts : List Token} {e : Expr} {peak : Nat}
    (h : Reads cs ts) (hderives : Derives (.chain .disjunction) 0 ts e peak) :
    peak ≤ maxDepth ∧ Statement.compile (String.ofList cs) = .ok ⟨String.ofList cs, e⟩ ∨
      maxDepth < peak ∧ ∃ found position, Statement.compile (String.ofList cs) =
        .error ⟨String.ofList cs, .parse (.nestingTooDeep found position)⟩ := by
  obtain ⟨placed, htokenize, htokens⟩ := h.tokenize_eq
  rw [← statementTokens_eq htokens hderives.eof_notMem] at hderives
  simp only [Statement.compile, Statement.exprOf, htokenize]
  rcases DerivesStatement.parse_eq hderives with ⟨hpeak, hparse⟩ | ⟨hdeep, found, position, hparse⟩
  · rw [hparse]
    exact .inl ⟨hpeak, rfl⟩
  · rw [hparse]
    exact .inr ⟨hdeep, found, position, rfl⟩

theorem Reads.compile_ok {cs : List Char} {ts : List Token} {e : Expr} {peak : Nat}
    (h : Reads cs ts) (hderives : Derives (.chain .disjunction) 0 ts e peak)
    (hpeak : peak ≤ maxDepth) :
    Statement.compile (String.ofList cs) = .ok ⟨String.ofList cs, e⟩ := by
  rcases h.compile_eq hderives with ⟨-, hcompile⟩ | ⟨hdeep, -⟩
  · exact hcompile
  · omega

end EventRouting
