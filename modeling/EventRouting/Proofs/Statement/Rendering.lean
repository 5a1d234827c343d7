import EventRouting.Proofs.Decimal.Quantity
import EventRouting.Proofs.Statement.Writing

set_option autoImplicit false

/-!
# Canonical text of compiled expressions

Canonical text puts an operand that is an operation in parentheses, and each pair of parentheses
is a level, also where the text that was compiled had none. So an accepted text can have a
canonical text that is refused. The main statement is that this happens exactly where the cost
of the expression exceeds `maxDepth`; repeated negations are an example, as they cost nearly
twice as many levels in canonical text.
-/
namespace EventRouting

namespace Expr

mutual

theorem Writable.same_self : ∀ {e : Expr}, e.Writable → e.same e = true
  | .float _, h => Binary64.sameNumber_self (Binary64.isNaN_of_isFinite h)
  | .integer _, _ => by simp [same]
  | .string _, _ => by simp [same]
  | .boolean _, _ => by simp [same]
  | .null, _ => rfl
  | .pointer _, _ => by simp [same]
  | .list _, h => AllWritable.sameAll_self h
  | .not operand, h => Writable.same_self (e := operand) h
  | .binary _ _ _, h => by
    simp [same, Writable.same_self h.1, Writable.same_self h.2]

theorem AllWritable.sameAll_self : ∀ {items : List Expr}, AllWritable items →
    sameAll items items = true
  | [], _ => rfl
  | _ :: _, h => by
    simp [sameAll, Writable.same_self h.1, AllWritable.sameAll_self h.2]

end

end Expr

/-- A compiled expression is given back by its canonical text if it costs no more levels than
statements may have. Otherwise its canonical text is refused for its nesting. -/
theorem compile_rendering_iff (text : String) (s : Statement)
    (h : Statement.compile text = .ok s) :
    ((∃ again, Statement.compile s.expr.toStatement = .ok again ∧
        again.expr.same s.expr = true) ↔ s.expr.cost ≤ maxDepth) ∧
      (maxDepth < s.expr.cost → ∃ found position, Statement.compile s.expr.toStatement =
        .error ⟨s.expr.toStatement, .parse (.nestingTooDeep found position)⟩) := by
  have hwritable := Statement.writable_of_compile h
  rcases hwritable.compile_eq with ⟨hcost, hcompile⟩ | ⟨hdeep, found, position, hcompile⟩
  · constructor
    · exact ⟨fun _ => hcost, fun _ => ⟨_, hcompile, hwritable.same_self⟩⟩
    · intro hdeep
      omega
  · refine ⟨⟨?_, fun hcost => ?_⟩, fun _ => ⟨found, position, hcompile⟩⟩
    · rintro ⟨again, hagain, -⟩
      rw [hcompile] at hagain
      cases hagain
    · omega

namespace Expr

def negations : Nat → Expr
  | 0 => .boolean true
  | n + 1 => .not (negations n)

def negationsText (n : Nat) : List Char :=
  (List.replicate n ['n', 'o', 't', ' ']).flatten ++ ['t', 'r', 'u', 'e']

def negationsTokens (n : Nat) : List Token := List.replicate n .not ++ [.boolean true]

theorem negations_cost (n : Nat) : (negations (n + 1)).cost = 2 * n + 1 := by
  induction n with
  | zero => rfl
  | succ n ih =>
    have hoperation : (negations (n + 1)).isOperation = true := rfl
    rw [negations, cost, if_pos hoperation, ih]
    omega

theorem negations_reads (n : Nat) : Reads (negationsText n) (negationsTokens n) := by
  induction n with
  | zero => exact Reads.written (t := .boolean true) trivial
  | succ n ih => exact ih.negated

theorem negations_derives (n d : Nat) :
    Derives .negation d (negationsTokens n) (negations n) (d + n) := by
  induction n generalizing d with
  | zero =>
    have htrue : Derives .primary d [.boolean true] (.boolean true) d := .leaf rfl
    exact htrue.loosen (Nat.zero_le _)
  | succ n ih =>
    have hoperand := ih (d + 1)
    rw [show d + 1 + n = d + (n + 1) by omega] at hoperand
    exact .negation hoperand

end Expr

theorem Statement.compile_negations {n : Nat} (h : n ≤ maxDepth) :
    compile (String.ofList (Expr.negationsText n)) =
      .ok ⟨String.ofList (Expr.negationsText n), .negations n⟩ := by
  have hrank : Level.negation.rank ≤ (Level.chain .disjunction).rank := by decide
  have hderives := (Expr.negations_derives n 0).loosen hrank
  exact (Expr.negations_reads n).compile_ok hderives (by omega)

theorem compile_rendering_iff_not_not :
    ∃ s, Statement.compile "not not true" = .ok s ∧ s.expr.toStatement = "not (not true)" ∧
      ∃ again, Statement.compile s.expr.toStatement = .ok again ∧
        again.expr.same s.expr = true := by
  have hcompile : Statement.compile "not not true" = .ok ⟨"not not true", .negations 2⟩ :=
    Statement.compile_negations (n := 2) (by decide)
  exact ⟨_, hcompile, rfl, (compile_rendering_iff _ _ hcompile).1.2 (by decide)⟩

/-- With 65 negations the text is within the levels that statements may have, and its canonical
text is one beyond. -/
theorem compile_rendering_negations :
    ∃ s, Statement.compile (String.ofList
        ((List.replicate 65 ['n', 'o', 't', ' ']).flatten ++ ['t', 'r', 'u', 'e'])) = .ok s ∧
      ∃ found position, Statement.compile s.expr.toStatement =
        .error ⟨s.expr.toStatement, .parse (.nestingTooDeep found position)⟩ := by
  have hcompile := Statement.compile_negations (n := 65) (by decide)
  have hcost : maxDepth < (Expr.negations 65).cost := by
    rw [Expr.negations_cost]
    decide
  have hwritable := Statement.writable_of_compile hcompile
  refine ⟨_, hcompile, ?_⟩
  rcases hwritable.compile_eq with ⟨hle, -⟩ | ⟨-, hrefused⟩
  · exact absurd hcost (Nat.not_lt.2 hle)
  · exact hrefused

end EventRouting
