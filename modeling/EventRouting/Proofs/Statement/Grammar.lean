import EventRouting.Statement.Parse

set_option autoImplicit false

/-!
# The grammar of statements

The rules by which tokens derive an expression, with the nesting level at which each part
stands. The first operand of a chain stands at the level of the chain, its k-th further operand
k levels above; the content of parentheses and brackets and the operand of a prefix negation
stand one level above where they are written. `Derives level d ts e peak` says that the tokens
`ts`, standing at level `d`, derive `e` as a phrase of a precedence level, by a derivation whose
highest level is `peak`. The main statement is that a text of tokens begins with at most one
phrase that it can stop behind, which has one tree and one peak.
-/
namespace EventRouting

inductive Chain.Joint : Chain → List Token → Operator → Prop
  | or : Joint .disjunction [.or] .or
  | and : Joint .conjunction [.and] .and
  | equal : Joint .equality [.equal] .equal
  | notEqual : Joint .equality [.notEqual] .notEqual
  | matches : Joint .equality [.matches] .matches
  | notMatches : Joint .equality [.notMatches] .notMatches
  | less : Joint .relation [.less] .less
  | greater : Joint .relation [.greater] .greater
  | lessEqual : Joint .relation [.lessEqual] .lessEqual
  | greaterEqual : Joint .relation [.greaterEqual] .greaterEqual
  | member : Joint .membership [.member] .member
  | notMember : Joint .membership [.not, .member] .notMember

mutual

inductive Derives : Level → Nat → List Token → Expr → Nat → Prop
  | chain {c : Chain} {d p q : Nat} {ts us : List Token} {first e : Expr} :
      Derives c.operand d ts first p → Continues c d first us e q →
      Derives (.chain c) d (ts ++ us) e (max p q)
  | negation {d p : Nat} {ts : List Token} {e : Expr} :
      Derives .negation (d + 1) ts e p → Derives .negation d (.not :: ts) (.not e) p
  | plain {d p : Nat} {ts : List Token} {e : Expr} :
      Derives (.chain .equality) d ts e p → Derives .negation d ts e p
  | leaf {d : Nat} {t : Token} {e : Expr} :
      t.leaf? = some e → Derives .primary d [t] e d
  | emptyList {d : Nat} : Derives .primary d [.leftBracket, .rightBracket] (.list []) (d + 1)
  | list {d p : Nat} {ts : List Token} {es : List Expr} :
      DerivesItems (d + 1) ts es p →
      Derives .primary d (.leftBracket :: (ts ++ [.rightBracket])) (.list es) p
  | parens {d p : Nat} {ts : List Token} {e : Expr} :
      Derives (.chain .disjunction) (d + 1) ts e p →
      Derives .primary d (.leftParen :: (ts ++ [.rightParen])) e p

/-- The further operands of a chain, grouped to the left. The operand before them is, or ends
with, one at level `d`, and `left` is the tree so far. -/
inductive Continues : Chain → Nat → Expr → List Token → Expr → Nat → Prop
  | stop {c : Chain} {d : Nat} {left : Expr} : Continues c d left [] left d
  | more {c : Chain} {d p q : Nat} {symbol ts us : List Token} {op : Operator}
      {left right e : Expr} :
      c.Joint symbol op → Derives c.operand (d + 1) ts right p →
      Continues c (d + 1) (.binary op left right) us e q →
      Continues c d left (symbol ++ (ts ++ us)) e (max p q)

inductive DerivesItems : Nat → List Token → List Expr → Nat → Prop
  | one {d p : Nat} {ts : List Token} {e : Expr} :
      Derives (.chain .disjunction) d ts e p → DerivesItems d ts [e] p
  | more {d p q : Nat} {ts us : List Token} {e : Expr} {es : List Expr} :
      Derives (.chain .disjunction) d ts e p → DerivesItems d us es q →
      DerivesItems d (ts ++ .comma :: us) (e :: es) (max p q)

end

namespace Chain.Joint

theorem ne_nil {c : Chain} {symbol : List Token} {op : Operator} (h : c.Joint symbol op) :
    symbol ≠ [] := by
  cases h <;> simp

theorem eof_notMem {c : Chain} {symbol : List Token} {op : Operator} (h : c.Joint symbol op) :
    Token.eof ∉ symbol := by
  cases h <;> simp

theorem unique {c c' : Chain} {symbol symbol' xs ys : List Token} {op op' : Operator}
    (h : c.Joint symbol op) (h' : c'.Joint symbol' op') (heq : symbol ++ xs = symbol' ++ ys) :
    c = c' ∧ symbol = symbol' ∧ op = op' ∧ xs = ys := by
  cases h <;> cases h' <;> simp_all

theorem head_ne {c : Chain} {symbol xs ys : List Token} {op : Operator} {t : Token}
    (h : c.Joint symbol op) (ht : t ∈ [.comma, .rightBracket, .rightParen, .eof]) :
    t :: ys ≠ symbol ++ xs := by
  cases h <;> simp at ht ⊢ <;> rintro rfl <;> simp at ht

end Chain.Joint

/-- What may follow a phrase of a level: no operator that would take it further. -/
def Level.Stops (level : Level) (rest : List Token) : Prop :=
  ∀ (c : Chain) (symbol : List Token) (op : Operator) (xs : List Token),
    (Level.chain c).rank ≤ level.rank → c.Joint symbol op → rest ≠ symbol ++ xs

namespace Level

theorem rank_inj {level level' : Level} (h : level.rank = level'.rank) : level = level' := by
  revert h
  rcases level with (_ | _ | _ | _ | _) | _ | _ <;>
    rcases level' with (_ | _ | _ | _ | _) | _ | _ <;> decide

theorem stops_nil (level : Level) : level.Stops [] := by
  intro c symbol op xs _ h
  have := h.ne_nil
  simp [this]

theorem stops_cons (level : Level) {t : Token} {rest : List Token}
    (h : t ∈ [.comma, .rightBracket, .rightParen, .eof]) : level.Stops (t :: rest) :=
  fun _ _ _ _ _ joint => joint.head_ne h

theorem Stops.mono {level level' : Level} {rest : List Token} (h : level.Stops rest)
    (hrank : level'.rank ≤ level.rank) : level'.Stops rest :=
  fun c symbol op xs hc => h c symbol op xs (Nat.le_trans hc hrank)

theorem stops_joint {c : Chain} {symbol : List Token} {op : Operator} (h : c.Joint symbol op)
    (rest : List Token) : c.operand.Stops (symbol ++ rest) := by
  intro c' symbol' op' xs hrank h' heq
  obtain ⟨rfl, _⟩ := h.unique h' heq
  exact absurd hrank (Nat.not_le.2 c.rank_operand_lt)

end Level

namespace Continues

theorem stops {c : Chain} {d q : Nat} {left e : Expr} {us rest : List Token}
    (h : Continues c d left us e q) (hrest : (Level.chain c).Stops rest) :
    c.operand.Stops (us ++ rest) := by
  cases h with
  | stop => exact hrest.mono (Nat.le_of_lt c.rank_operand_lt)
  | more joint _ _ =>
    rw [List.append_assoc]
    exact Level.stops_joint joint _

end Continues

def Token.Opens (t : Token) : Prop :=
  t.leaf?.isSome ∨ t = .leftBracket ∨ t = .leftParen

mutual

theorem Derives.le_peak {level : Level} {d p : Nat} {ts : List Token} {e : Expr} :
    Derives level d ts e p → d ≤ p
  | .chain first _ => Nat.le_trans first.le_peak (Nat.le_max_left _ _)
  | .negation operand => Nat.le_of_succ_le operand.le_peak
  | .plain inner => inner.le_peak
  | .leaf _ => Nat.le_refl _
  | .emptyList => Nat.le_succ _
  | .list items => Nat.le_of_succ_le items.le_peak
  | .parens inner => Nat.le_of_succ_le inner.le_peak

theorem DerivesItems.le_peak {d p : Nat} {ts : List Token} {es : List Expr} :
    DerivesItems d ts es p → d ≤ p
  | .one item => item.le_peak
  | .more item _ => Nat.le_trans item.le_peak (Nat.le_max_left _ _)

end

theorem Continues.le_peak {c : Chain} {d p : Nat} {ts : List Token} {left e : Expr}
    (h : Continues c d left ts e p) : d ≤ p := by
  cases h with
  | stop => exact Nat.le_refl _
  | more _ right _ =>
    exact Nat.le_trans (Nat.le_of_succ_le right.le_peak) (Nat.le_max_left _ _)

theorem Derives.head {level : Level} {d p : Nat} {ts : List Token} {e : Expr} :
    Derives level d ts e p →
    ∃ t us, ts = t :: us ∧ (t.Opens ∨ t = .not ∧ Level.negation.rank ≤ level.rank)
  | @Derives.chain c _ _ _ _ _ _ _ first _ => by
    obtain ⟨t, us, rfl, ht⟩ := first.head
    refine ⟨t, _, rfl, ht.imp_right fun h => ⟨h.1, ?_⟩⟩
    exact Nat.le_trans h.2 (Nat.le_of_lt c.rank_operand_lt)
  | .negation _ => ⟨_, _, rfl, .inr ⟨rfl, Nat.le_refl _⟩⟩
  | .plain inner => by
    obtain ⟨t, us, rfl, ht⟩ := inner.head
    exact ⟨t, us, rfl, ht.imp_right fun h => absurd h.2 (by decide)⟩
  | .leaf ht => ⟨_, _, rfl, .inl (.inl (by simp [ht]))⟩
  | .emptyList => ⟨_, _, rfl, .inl (.inr (.inl rfl))⟩
  | .list _ => ⟨_, _, rfl, .inl (.inr (.inl rfl))⟩
  | .parens _ => ⟨_, _, rfl, .inl (.inr (.inr rfl))⟩

theorem DerivesItems.head {d p : Nat} {ts : List Token} {es : List Expr}
    (h : DerivesItems d ts es p) : ∃ t us, ts = t :: us ∧ (t.Opens ∨ t = .not) := by
  cases h with
  | one item =>
    obtain ⟨t, us, rfl, ht⟩ := item.head
    exact ⟨t, us, rfl, ht.imp_right And.left⟩
  | more item _ =>
    obtain ⟨t, us, rfl, ht⟩ := item.head
    exact ⟨t, _, rfl, ht.imp_right And.left⟩

theorem Derives.ne_nil {level : Level} {d p : Nat} {ts : List Token} {e : Expr}
    (h : Derives level d ts e p) : ts ≠ [] := by
  obtain ⟨t, us, rfl, -⟩ := h.head
  exact List.cons_ne_nil t us

theorem DerivesItems.ne_nil {d p : Nat} {ts : List Token} {es : List Expr}
    (h : DerivesItems d ts es p) : ts ≠ [] := by
  obtain ⟨t, us, rfl, -⟩ := h.head
  exact List.cons_ne_nil t us

theorem Token.not_opens {t : Token}
    (h : t ∈ [.not, .comma, .rightBracket, .rightParen, .eof]) : ¬t.Opens := by
  simp only [List.mem_cons, List.not_mem_nil, or_false] at h
  rintro (hleaf | hbracket)
  · rcases h with rfl | rfl | rfl | rfl | rfl <;> cases hleaf
  · rcases h with rfl | rfl | rfl | rfl | rfl <;> simp at hbracket

theorem DerivesItems.ne_rightBracket {d p : Nat} {ts us : List Token} {es : List Expr}
    (h : DerivesItems d ts es p) : ts ≠ .rightBracket :: us := by
  obtain ⟨t, vs, rfl, ht⟩ := h.head
  rintro heq
  obtain ⟨rfl, -⟩ := List.cons.inj heq
  exact ht.elim (Token.not_opens (by simp)) (by simp)

theorem Derives.ne_not {level : Level} {d p : Nat} {ts us : List Token} {e : Expr}
    (h : Derives level d ts e p) (hrank : level.rank < Level.negation.rank) :
    ts ≠ .not :: us := by
  obtain ⟨t, vs, rfl, ht⟩ := h.head
  rintro heq
  obtain ⟨rfl, -⟩ := List.cons.inj heq
  exact ht.elim (Token.not_opens (by simp)) fun h => absurd h.2 (Nat.not_le.2 hrank)

mutual

theorem Derives.eof_notMem {level : Level} {d p : Nat} {ts : List Token} {e : Expr} :
    Derives level d ts e p → Token.eof ∉ ts
  | .chain first more => by simp [first.eof_notMem, more.eof_notMem]
  | .negation operand => by simp [operand.eof_notMem]
  | .plain inner => inner.eof_notMem
  | .leaf ht => by
    rintro h
    obtain rfl := List.mem_singleton.mp h
    cases ht
  | .emptyList => by simp
  | .list items => by simp [items.eof_notMem]
  | .parens inner => by simp [inner.eof_notMem]

theorem Continues.eof_notMem {c : Chain} {d p : Nat} {ts : List Token} {left e : Expr} :
    Continues c d left ts e p → Token.eof ∉ ts
  | .stop => by simp
  | .more joint right rest => by
    simp [joint.eof_notMem, right.eof_notMem, rest.eof_notMem]

theorem DerivesItems.eof_notMem {d p : Nat} {ts : List Token} {es : List Expr} :
    DerivesItems d ts es p → Token.eof ∉ ts
  | .one item => item.eof_notMem
  | .more item items => by simp [item.eof_notMem, items.eof_notMem]

end

mutual

theorem Derives.unique {level : Level} {d p p' : Nat} {ts ts' rest rest' : List Token}
    {e e' : Expr} :
    Derives level d ts e p → Derives level d ts' e' p' → ts ++ rest = ts' ++ rest' →
    level.Stops rest → level.Stops rest' → ts = ts' ∧ e = e' ∧ p = p'
  | .chain first more, h', heq, hrest, hrest' => by
    cases h' with
    | chain first' more' =>
      simp only [List.append_assoc] at heq
      obtain ⟨rfl, rfl, rfl⟩ :=
        first.unique first' heq (more.stops hrest) (more'.stops hrest')
      obtain ⟨rfl, rfl, rfl⟩ :=
        more.unique more' (List.append_cancel_left heq) hrest hrest'
      exact ⟨rfl, rfl, rfl⟩
  | .negation operand, h', heq, hrest, hrest' => by
    cases h' with
    | negation operand' =>
      obtain ⟨rfl, rfl, rfl⟩ := operand.unique operand' (List.cons.inj heq).2 hrest hrest'
      exact ⟨rfl, rfl, rfl⟩
    | plain inner' =>
      obtain ⟨t, us, rfl, -⟩ := inner'.head
      obtain ⟨rfl, -⟩ := List.cons.inj heq
      exact absurd rfl (inner'.ne_not (by decide))
  | .plain inner, h', heq, hrest, hrest' => by
    cases h' with
    | negation _ =>
      obtain ⟨t, us, rfl, -⟩ := inner.head
      obtain ⟨rfl, -⟩ := List.cons.inj heq
      exact absurd rfl (inner.ne_not (by decide))
    | plain inner' =>
      exact inner.unique inner' heq (hrest.mono (by decide)) (hrest'.mono (by decide))
  | .leaf ht, h', heq, _, _ => by
    cases h' with
    | leaf ht' =>
      obtain ⟨rfl, -⟩ := List.cons.inj heq
      exact ⟨rfl, Option.some.inj (ht.symm.trans ht'), rfl⟩
    | emptyList | list _ | parens _ =>
      obtain ⟨rfl, -⟩ := List.cons.inj heq
      cases ht
  | .emptyList, h', heq, _, _ => by
    cases h' with
    | leaf ht' =>
      obtain ⟨rfl, -⟩ := List.cons.inj heq
      cases ht'
    | emptyList => exact ⟨rfl, rfl, rfl⟩
    | list items' =>
      obtain ⟨t, us, rfl, -⟩ := items'.head
      simp only [List.cons_append, List.cons.injEq, true_and] at heq
      exact absurd (congrArg (· :: us) heq.1.symm) items'.ne_rightBracket
    | parens _ => simp at heq
  | .list items, h', heq, _, _ => by
    cases h' with
    | leaf ht' =>
      obtain ⟨rfl, -⟩ := List.cons.inj heq
      cases ht'
    | emptyList =>
      obtain ⟨t, us, rfl, -⟩ := items.head
      simp only [List.cons_append, List.cons.injEq, true_and] at heq
      exact absurd (congrArg (· :: us) heq.1) items.ne_rightBracket
    | list items' =>
      simp only [List.cons_append, List.append_assoc, List.cons.injEq, true_and] at heq
      obtain ⟨rfl, rfl, rfl⟩ := items.unique items' heq
      exact ⟨rfl, rfl, rfl⟩
    | parens _ => simp at heq
  | .parens inner, h', heq, _, _ => by
    cases h' with
    | leaf ht' =>
      obtain ⟨rfl, -⟩ := List.cons.inj heq
      cases ht'
    | emptyList | list _ => simp at heq
    | parens inner' =>
      simp only [List.cons_append, List.append_assoc, List.cons.injEq, true_and] at heq
      obtain ⟨rfl, rfl, rfl⟩ :=
        inner.unique inner' heq (Level.stops_cons _ (by simp)) (Level.stops_cons _ (by simp))
      exact ⟨rfl, rfl, rfl⟩

theorem Continues.unique {c : Chain} {d p p' : Nat} {ts ts' rest rest' : List Token}
    {left e e' : Expr} :
    Continues c d left ts e p → Continues c d left ts' e' p' → ts ++ rest = ts' ++ rest' →
    (Level.chain c).Stops rest → (Level.chain c).Stops rest' → ts = ts' ∧ e = e' ∧ p = p'
  | .stop, h', heq, hrest, _ => by
    cases h' with
    | stop => exact ⟨rfl, rfl, rfl⟩
    | more joint _ _ =>
      rw [List.append_assoc] at heq
      exact absurd heq (hrest _ _ _ _ (Nat.le_refl _) joint)
  | .more joint right more, h', heq, hrest, hrest' => by
    cases h' with
    | stop =>
      rw [List.append_assoc] at heq
      exact absurd heq.symm (hrest' _ _ _ _ (Nat.le_refl _) joint)
    | more joint' right' more' =>
      simp only [List.append_assoc] at heq
      obtain ⟨-, rfl, rfl, heq⟩ := joint.unique joint' heq
      obtain ⟨rfl, rfl, rfl⟩ :=
        right.unique right' heq (more.stops hrest) (more'.stops hrest')
      obtain ⟨rfl, rfl, rfl⟩ :=
        more.unique more' (List.append_cancel_left heq) hrest hrest'
      exact ⟨rfl, rfl, rfl⟩

theorem DerivesItems.unique {d p p' : Nat} {ts ts' rest rest' : List Token}
    {es es' : List Expr} :
    DerivesItems d ts es p → DerivesItems d ts' es' p' →
    ts ++ .rightBracket :: rest = ts' ++ .rightBracket :: rest' →
    ts = ts' ∧ es = es' ∧ p = p'
  | .one item, h', heq => by
    cases h' with
    | one item' =>
      obtain ⟨rfl, rfl, rfl⟩ :=
        item.unique item' heq (Level.stops_cons _ (by simp)) (Level.stops_cons _ (by simp))
      exact ⟨rfl, rfl, rfl⟩
    | more item' _ =>
      simp only [List.append_assoc, List.cons_append] at heq
      obtain ⟨rfl, rfl, rfl⟩ :=
        item.unique item' heq (Level.stops_cons _ (by simp)) (Level.stops_cons _ (by simp))
      simp at heq
  | .more item items, h', heq => by
    cases h' with
    | one item' =>
      simp only [List.append_assoc, List.cons_append] at heq
      obtain ⟨rfl, rfl, rfl⟩ :=
        item.unique item' heq (Level.stops_cons _ (by simp)) (Level.stops_cons _ (by simp))
      simp at heq
    | more item' items' =>
      simp only [List.append_assoc, List.cons_append] at heq
      obtain ⟨rfl, rfl, rfl⟩ :=
        item.unique item' heq (Level.stops_cons _ (by simp)) (Level.stops_cons _ (by simp))
      obtain ⟨rfl, rfl, rfl⟩ :=
        items.unique items' (List.cons.inj (List.append_cancel_left heq)).2
      exact ⟨rfl, rfl, rfl⟩

end

/-- A list of tokens is a phrase of a level in at most one way. -/
theorem Derives.tree_unique {level : Level} {d p p' : Nat} {ts : List Token} {e e' : Expr}
    (h : Derives level d ts e p) (h' : Derives level d ts e' p') : e = e' ∧ p = p' :=
  (h.unique h' (show ts ++ [] = ts ++ [] from rfl) level.stops_nil level.stops_nil).2

theorem Derives.single {c : Chain} {d p : Nat} {ts : List Token} {e : Expr}
    (h : Derives c.operand d ts e p) : Derives (.chain c) d ts e p := by
  have hchain := Derives.chain h .stop
  rwa [List.append_nil, Nat.max_eq_left h.le_peak] at hchain

theorem Derives.of_tighter {level : Level} (hrank : 0 < level.rank) :
    ∃ tighter : Level, tighter.rank + 1 = level.rank ∧
      ∀ {d p : Nat} {ts : List Token} {e : Expr},
        Derives tighter d ts e p → Derives level d ts e p := by
  cases level with
  | chain c => exact ⟨c.operand, by cases c <;> rfl, .single⟩
  | negation => exact ⟨.chain .equality, rfl, .plain⟩
  | primary => exact absurd hrank (by decide)

theorem Derives.loosen {level level' : Level} {d p : Nat} {ts : List Token} {e : Expr}
    (h : Derives level d ts e p) (hrank : level.rank ≤ level'.rank) :
    Derives level' d ts e p := by
  obtain ⟨gap, hgap⟩ := Nat.exists_eq_add_of_le hrank
  induction gap generalizing level' with
  | zero => rwa [Level.rank_inj hgap]
  | succ gap ih =>
    have hpos : 0 < level'.rank := by omega
    obtain ⟨tighter, htighter, hderives⟩ := Derives.of_tighter hpos
    exact hderives (ih (by omega) (by omega))

end EventRouting
