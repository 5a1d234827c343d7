import EventRouting.Evaluation.Evaluator
import EventRouting.Proofs.Decimal.Representable
import EventRouting.Proofs.Evaluation.Comparison
import EventRouting.Proofs.Statement.Writing
import EventRouting.Value.Json

set_option autoImplicit false

namespace EventRouting

theorem Reads.literal {l : Decimal.Literal} (hl : l.WellFormed) {t : Token}
    (ht : Scan.numberToken? l = some t) : Reads l.text [t] := by
  intro rest p hrest
  have hscans := Scan.scans_literal hl ht hrest
  exact ⟨[⟨t, p⟩], rfl, Source.tokens_scans hscans (Scan.numberToken?_writable ht) p⟩

theorem Scan.numberToken?_floatForm (n : Int64) :
    numberToken? (.floatForm n.toInt) =
      some (.float (Decimal.Literal.floatForm n.toInt).toBinary64) := by
  have hfraction : (Decimal.Literal.floatForm n.toInt).isInteger = false := rfl
  rw [numberToken?, hfraction, (Decimal.Literal.toBinary64_floatForm n).1]
  rfl

namespace Expr

def equalsFloatForm (m : Int) : Expr :=
  binary .equal (pointer ⟨["n"]⟩) (float (Decimal.Literal.floatForm m).toBinary64)

theorem eval_equalsFloatForm {engine : PatternEngine} {event : Event} {n : Int64}
    (hn : (pointer ⟨["n"]⟩).eval engine event = .ok (.integer n)) :
    ∃ b, (equalsFloatForm n.toInt).eval engine event = .ok (.boolean b) ∧
      (b = true ↔ Binary64.Representable n.toInt) := by
  obtain ⟨hfinite, hexact⟩ := Decimal.Literal.toBinary64_floatForm n
  have hnan : Value.float (Decimal.Literal.floatForm n.toInt).toBinary64 ≠ .float .nan := by
    intro h
    rw [Value.float.inj h] at hfinite
    cases hfinite
  have hcompares := comparesAs hn (eval_float event _) rfl rfl (by rintro ⟨⟩) hnan
  refine ⟨_, hcompares.equal, ?_⟩
  rw [decide_eq_true_iff, eq_comm]
  exact hexact

example :
    let read (n : Int) := (Decimal.Literal.floatForm n).toBinary64
    Value.equal (.integer (-9223372036854775808)) (.float (read (-9223372036854775808))) = true ∧
      Value.equal (.integer 9223372036854775807) (.float (read 9223372036854775807)) = false := by
  decide +kernel

end Expr

theorem Evaluator.evaluate_equalsFloatForm {engine : PatternEngine} (ev : Evaluator engine)
    (m : Int) (event : Event) :
    (ev.evaluate (.equalsFloatForm m) event).1 = (Expr.equalsFloatForm m).eval engine event := rfl

namespace Statement

open Decimal

theorem compile_equalsFloatForm (n : Int64) :
    let text := "/n == " ++ Text.ofInt n.toInt ++ ".0"
    compile text = .ok ⟨text, .equalsFloatForm n.toInt⟩ := by
  intro text
  have hpointer : Reads ['/', 'n'] [.pointer ⟨["n"]⟩] :=
    Reads.written (t := .pointer ⟨["n"]⟩) (List.cons_ne_nil _ _)
  have hliteral := Reads.literal (Literal.floatForm_wellFormed n.toInt)
    (Scan.numberToken?_floatForm n)
  have hreads := Operator.equal.reads_between hpointer hliteral
  have hderives := (Expr.canonical_derives (.equalsFloatForm n.toInt) 0).loosen
    (Expr.level_rank_le _)
  have hcost : (Expr.equalsFloatForm n.toInt).cost = 1 := rfl
  rw [hcost] at hderives
  have hcompile := hreads.compile_ok hderives (by decide)
  have htext : ['/', 'n'] ++ ' ' :: Operator.equal.symbol.toList ++
      ' ' :: (Literal.floatForm n.toInt).text = text.toList := by
    rw [Literal.floatForm_text]
    simp [text, Operator.symbol]
  rwa [htext, String.ofList_toList] at hcompile

/-- An integer equals its float form exactly if it is representable. The statement that compares
them compiles, and has an answer whatever was evaluated before. -/
theorem equals_float_form (engine : PatternEngine) (n : Int64) :
    let text := "/n == " ++ Text.ofInt n.toInt ++ ".0"
    let number := Json.number (.integer n.toInt (jsonIntegerRange_toInt n))
    let event := Event.ofJson (.object [("n", number)])
    ∃ s b, compile text = .ok s ∧ (b = true ↔ Binary64.Representable n.toInt) ∧
      ∀ ev : Evaluator engine, (ev.evaluate s.expr event).1 = .ok (.boolean b) ∧
        (ev.evaluateConditional s.expr event).1 = .ok b := by
  intro text number event
  have hevent : event = ⟨[("n", .integer n)]⟩ := by
    show Event.mk [("n", Value.ofJson number)] = _
    rw [Value.ofJson, Int64.ofInt?_toInt]
  have hn : (Expr.pointer ⟨["n"]⟩).eval engine event = .ok (.integer n) := by
    rw [hevent]
    rfl
  obtain ⟨b, hanswer, hiff⟩ := Expr.eval_equalsFloatForm hn
  refine ⟨_, b, compile_equalsFloatForm n, hiff, fun ev => ?_⟩
  have hevaluate : (ev.evaluate (.equalsFloatForm n.toInt) event).1 = .ok (.boolean b) :=
    (ev.evaluate_equalsFloatForm n.toInt event).trans hanswer
  refine ⟨hevaluate, ?_⟩
  show ((ev.evaluate (.equalsFloatForm n.toInt) event).1 >>= Value.condition) = _
  rw [hevaluate]
  rfl

end Statement
end EventRouting
