import EventRouting.Proofs.Statement.Locality

set_option autoImplicit false

namespace EventRouting

mutual

/-- A phrase can stand at any level, and its highest level moves with it. -/
theorem Derives.raise (k : Nat) {level : Level} {d p : Nat} {ts : List Token} {e : Expr} :
    Derives level d ts e p → Derives level (d + k) ts e (p + k)
  | .chain first more => by
    rw [← Nat.add_max_add_right]
    exact .chain (first.raise k) (more.raise k)
  | .negation operand => by
    have hoperand := operand.raise k
    rw [Nat.add_right_comm] at hoperand
    exact .negation hoperand
  | .plain inner => .plain (inner.raise k)
  | .leaf ht => .leaf ht
  | .emptyList => by
    rw [Nat.add_right_comm]
    exact .emptyList
  | .list items => by
    have hitems := items.raise k
    rw [Nat.add_right_comm] at hitems
    exact .list hitems
  | .parens inner => by
    have hinner := inner.raise k
    rw [Nat.add_right_comm] at hinner
    exact .parens hinner

theorem Continues.raise (k : Nat) {c : Chain} {d p : Nat} {ts : List Token} {left e : Expr} :
    Continues c d left ts e p → Continues c (d + k) left ts e (p + k)
  | .stop => .stop
  | .more joint right more => by
    have hright := right.raise k
    have hmore := more.raise k
    rw [Nat.add_right_comm] at hright hmore
    rw [← Nat.add_max_add_right]
    exact .more joint hright hmore

theorem DerivesItems.raise (k : Nat) {d p : Nat} {ts : List Token} {es : List Expr} :
    DerivesItems d ts es p → DerivesItems (d + k) ts es (p + k)
  | .one item => .one (item.raise k)
  | .more item items => by
    rw [← Nat.add_max_add_right]
    exact .more (item.raise k) (items.raise k)

end

namespace Statement

def Peaks (text : String) (e : Expr) (peak : Nat) : Prop :=
  ∃ placed, tokenize text = .ok placed ∧ DerivesStatement placed e peak

/-- A text compiles to an expression if `peak` is within `maxDepth`, and is refused for its
nesting otherwise. -/
def Settles (text : String) (e : Expr) (peak : Nat) : Prop :=
  peak ≤ maxDepth ∧ compile text = .ok ⟨text, e⟩ ∨
    maxDepth < peak ∧ ∃ found position,
      compile text = .error ⟨text, .parse (.nestingTooDeep found position)⟩

theorem reads_of_compile {text : String} {s : Statement} (h : compile text = .ok s) :
    ∃ ts peak, Reads text.toList ts ∧ Derives (.chain .disjunction) 0 ts s.expr peak ∧
      peak ≤ maxDepth ∧ Peaks text s.expr peak := by
  obtain ⟨placed, peak, htokenize, hpeak, hderives⟩ := derives_of_compile h
  obtain ⟨ts, htokens, heof, hreads⟩ := Source.reads_of_tokens htokenize
  refine ⟨ts, peak, hreads, ?_, hpeak, placed, htokenize, hderives⟩
  rw [← statementTokens_eq htokens heof]
  exact hderives

theorem settles_of_reads {text : String} {cs : List Char} {ts : List Token} {e : Expr}
    {peak : Nat} (htext : text.toList = cs) (hreads : Reads cs ts)
    (h : Derives (.chain .disjunction) 0 ts e peak) : Settles text e peak := by
  have hcompile := hreads.compile_eq h
  rwa [← htext, String.ofList_toList] at hcompile

end Statement

section

variable {cs ds : List Char} {ts us : List Token} {e f : Expr} {p q : Nat}

theorem Derives.inParens (h : Derives (.chain .disjunction) 0 ts e p) (level : Level) (d : Nat) :
    Derives level d (Expr.inParensTokens true ts) e (p + (d + 1)) := by
  have hinner := h.raise (d + 1)
  rw [Nat.zero_add] at hinner
  exact (Derives.parens hinner).loosen (Nat.zero_le _)

variable (he : Derives (.chain .disjunction) 0 ts e p)
variable (hf : Derives (.chain .disjunction) 0 us f q)

include he

theorem Derives.inNegation :
    Derives (.chain .disjunction) 0 (.not :: Expr.inParensTokens true ts) (.not e) (p + 2) := by
  have hnegation := Derives.negation (he.inParens .negation 1)
  exact hnegation.loosen (by decide)

include hf

theorem Derives.inOperation (op : Operator) :
    Derives (.chain .disjunction) 0
      (Expr.inParensTokens true ts ++ (op.tokens ++ Expr.inParensTokens true us))
      (.binary op e f) (max (p + 1) (q + 2)) := by
  have hleft := he.inParens op.chain.operand 0
  have hright := hf.inParens op.chain.operand 1
  have hchain := Derives.chain hleft (.more op.joint hright .stop)
  have hpeak : max (p + (0 + 1)) (max (q + (1 + 1)) (0 + 1)) = max (p + 1) (q + 2) := by omega
  rw [List.append_nil, hpeak] at hchain
  exact hchain.loosen (Level.rank_le _)

theorem Derives.inList :
    Derives (.chain .disjunction) 0 (.leftBracket :: (ts ++ .comma :: us ++ [.rightBracket]))
      (.list [e, f]) (max (p + 1) (q + 1)) := by
  have hlist := Derives.list (d := 0) (.more (he.raise 1) (.one (hf.raise 1)))
  exact hlist.loosen (Nat.zero_le _)

end

namespace Statement

/-- Texts that compile keep their expressions within a larger text: as operands in parentheses of
every operator and of `not`, and as items of a list. The larger text fails at most for its
nesting, which is that of the parts and what stands around them. -/
theorem compile_composed {s t : String} {a b : Statement} (ha : compile s = .ok a)
    (hb : compile t = .ok b) :
    ∃ p q, (p ≤ maxDepth ∧ Peaks s a.expr p) ∧ (q ≤ maxDepth ∧ Peaks t b.expr q) ∧
      (∀ op : Operator, Settles ("(" ++ s ++ ") " ++ op.symbol ++ " (" ++ t ++ ")")
        (.binary op a.expr b.expr) (max (p + 1) (q + 2))) ∧
      Settles ("not (" ++ s ++ ")") (.not a.expr) (p + 2) ∧
      Settles ("[" ++ s ++ "," ++ t ++ "]") (.list [a.expr, b.expr]) (max (p + 1) (q + 1)) := by
  obtain ⟨ts, p, hs, he, hp, hpeaks⟩ := reads_of_compile ha
  obtain ⟨us, q, ht, hf, hq, hpeaks'⟩ := reads_of_compile hb
  refine ⟨p, q, ⟨hp, hpeaks⟩, ⟨hq, hpeaks'⟩, fun op => ?_, ?_, ?_⟩
  · have hreads := op.reads_between hs.inParens ht.inParens
    exact settles_of_reads (by simp) hreads (he.inOperation hf op)
  · exact settles_of_reads (by simp) hs.inParens.negated he.inNegation
  · exact settles_of_reads (by simp) (hs.listed ht).inBrackets (he.inList hf)

theorem compile_composed_quoted :
    let s := "\"\\\")\" == /a"
    let t := "not /b"
    let e := Expr.binary .equal (.string "\")") (.pointer ⟨["a"]⟩)
    let f := Expr.not (.pointer ⟨["b"]⟩)
    (compile s = .ok ⟨s, e⟩ ∧ compile t = .ok ⟨t, f⟩) ∧
      ∃ p q, Settles ("(" ++ s ++ ") " ++ Operator.and.symbol ++ " (" ++ t ++ ")")
          (.binary .and e f) (max (p + 1) (q + 2)) ∧
        Settles ("not (" ++ s ++ ")") (.not e) (p + 2) ∧
        Settles ("[" ++ s ++ "," ++ t ++ "]") (.list [e, f]) (max (p + 1) (q + 1)) := by
  intro s t e f
  have he : e.Writable := ⟨trivial, List.cons_ne_nil _ _⟩
  have hf : f.Writable := List.cons_ne_nil _ _
  have hs : e.toStatement = s := by decide +kernel
  have ht : f.toStatement = t := by decide +kernel
  have ha := compile_canonical he (by decide)
  have hb := compile_canonical hf (by decide)
  rw [hs] at ha
  rw [ht] at hb
  obtain ⟨p, q, -, -, hoperation, hnegation, hlist⟩ := compile_composed ha hb
  exact ⟨⟨ha, hb⟩, p, q, hoperation .and, hnegation, hlist⟩

end Statement

end EventRouting
