import EventRouting.Proofs.Statement.Complaints

set_option autoImplicit false

namespace EventRouting

open Fallible Cursor

/-- How messages name the tokens that could stand at a place. Stray text is of no kind that is
ever expected. -/
def Token.kind : Token → String
  | .float _ => "float"
  | .integer _ => "integer"
  | .string _ => "string"
  | .boolean _ => "boolean"
  | .null => "null"
  | .pointer _ => "JSON pointer"
  | .equal => "=="
  | .notEqual => "!="
  | .matches => "=~"
  | .notMatches => "!~"
  | .less => "<"
  | .greater => ">"
  | .lessEqual => "<="
  | .greaterEqual => ">="
  | .and => "and"
  | .or => "or"
  | .not => "not"
  | .member => "in"
  | .leftBracket => "["
  | .rightBracket => "]"
  | .leftParen => "("
  | .rightParen => ")"
  | .comma => ","
  | .invalid _ => "invalid"
  | .eof => "<EOF>"

theorem Token.opens_of_kind {t : Token} {m : Bool} (h : t.kind ∈ expectedKinds m) (ht : t ≠ .not) :
    t.Opens := by
  cases t <;> first
    | exact .inl rfl
    | exact .inr (.inl rfl)
    | exact .inr (.inr rfl)
    | exact absurd rfl ht
    | (revert h; cases m <;> simp [kind, expectedKinds, operandKinds])

theorem Token.exists_kind {m : Bool} {kind : String} (h : kind ∈ expectedKinds m) :
    ∃ t : Token, t.kind = kind := by
  let openers : List Token := [.integer 0, .float .nan, .boolean true, .null, .string "",
    .pointer ⟨[]⟩, .leftBracket, .leftParen, .not]
  have hmem : kind ∈ openers.map Token.kind := by
    cases m
    · exact List.mem_append_left ["not"] h
    · exact h
  obtain ⟨t, -, ht⟩ := List.mem_map.1 hmem
  exact ⟨t, ht⟩

theorem Token.eq_rightParen_of_kind {t : Token} (h : t.kind = ")") : t = .rightParen := by
  cases t <;> simp [kind] at h ⊢

theorem Token.eq_eof_of_kind {t : Token} (h : t.kind = "<EOF>") : t = .eof := by
  cases t <;> simp [kind] at h ⊢

theorem Token.mem_of_kind {t : Token} (h : t.kind ∈ [",", "]"]) :
    t = .comma ∨ t = .rightBracket := by
  cases t <;> simp [kind] at h ⊢

theorem not_mem_expectedKinds {m : Bool} : "not" ∈ expectedKinds m ↔ m = true := by
  cases m <;> simp [expectedKinds, operandKinds]

theorem Breaks.kinds_of_nil {level : Level} {m : Bool} {d : Nat} {ts rest : List Token}
    {kinds : List String} : Breaks level m d ts rest kinds → ts = [] →
    kinds = expectedKinds (m || decide (Level.negation.rank ≤ level.rank))
  | @Breaks.first c _ _ _ _ _ inner, hts => by
    rw [inner.kinds_of_nil hts]
    cases c <;> rfl
  | .further start _ _, hts => absurd (List.append_eq_nil_iff.1 hts).1 start.ne_nil
  | .plain _ inner, hts => by
    rw [inner.kinds_of_nil hts]
    simp
  | .operand _, _ => by simp [Level.rank]

mutual

/-- What is expected at a break is described by kinds that tokens have. -/
theorem Breaks.named {level : Level} {m : Bool} {d : Nat} {ts rest : List Token}
    {kinds : List String} : Breaks level m d ts rest kinds →
    ∀ kind ∈ kinds, ∃ t : Token, t.kind = kind
  | .first inner => inner.named
  | .further _ _ behind => behind.named
  | .negation _ operand => operand.named
  | .plain _ inner => inner.named
  | .operand _ => fun _ => Token.exists_kind
  | .list _ _ items => items.named
  | .parens _ inner => inner.named
  | .unclosed _ _ _ _ => by simpa using ⟨.rightParen, rfl⟩

theorem BreaksBehind.named {c : Chain} {d : Nat} {us rest : List Token} {kinds : List String} :
    BreaksBehind c d us rest kinds → ∀ kind ∈ kinds, ∃ t : Token, t.kind = kind
  | .operand _ _ inner => inner.named
  | .more _ _ _ behind => behind.named

theorem BreaksItems.named {d : Nat} {ts rest : List Token} {kinds : List String} :
    BreaksItems d ts rest kinds → ∀ kind ∈ kinds, ∃ t : Token, t.kind = kind
  | .item inner => inner.named
  | .unclosed _ _ _ _ _ => by simpa using ⟨⟨.comma, rfl⟩, .rightBracket, rfl⟩
  | .more _ _ items => items.named

end

theorem first_or_head?_ne {ts rest : List Token} {u : Token} (h : (ts ++ rest).head? ≠ some u)
    (t : Token) (rest' : List Token) :
    (ts = [] ∧ t = u) ∨ (ts ++ t :: rest').head? ≠ some u := by
  cases ts with
  | nil => simpa using Decidable.em (t = u)
  | cons v vs => exact .inr h

-- Behind the tokens that were read, `null` stands for the missing operand, and brackets close what
-- is open.
mutual

theorem Breaks.completes {level : Level} {m : Bool} {d : Nat} {ts rest : List Token}
    {kinds : List String} : Breaks level m d ts rest kinds → d ≤ maxDepth →
    ∃ closing e p, p ≤ maxDepth ∧ Derives level d (ts ++ closing) e p
  | .first inner, hmax => by
    obtain ⟨closing, e, p, hp, h⟩ := inner.completes hmax
    exact ⟨closing, e, p, hp, h.single⟩
  | @Breaks.further _ _ _ _ _ _ _ v _ start hp behind, hmax => by
    obtain ⟨closing, e, q, hq, h⟩ := behind.completes hmax v
    refine ⟨closing, e, _, Nat.max_le.2 ⟨hp, hq⟩, ?_⟩
    rw [List.append_assoc]
    exact .chain start h
  | .negation hlt operand, _ => by
    obtain ⟨closing, e, p, hp, h⟩ := operand.completes hlt
    exact ⟨closing, _, p, hp, .negation h⟩
  | .plain _ inner, hmax => by
    obtain ⟨closing, e, p, hp, h⟩ := inner.completes hmax
    exact ⟨closing, e, p, hp, .plain h⟩
  | .operand _, hmax => ⟨[.null], .null, _, hmax, .leaf rfl⟩
  | .list hlt _ items, _ => by
    obtain ⟨closing, es, p, hp, h⟩ := items.completes hlt
    refine ⟨closing ++ [.rightBracket], .list es, p, hp, ?_⟩
    rw [List.cons_append, ← List.append_assoc]
    exact .list h
  | .parens hlt inner, _ => by
    obtain ⟨closing, e, p, hp, h⟩ := inner.completes hlt
    refine ⟨closing ++ [.rightParen], e, p, hp, ?_⟩
    rw [List.cons_append, ← List.append_assoc]
    exact .parens h
  | .unclosed inner hp _ _, _ => ⟨[.rightParen], _, _, hp, .parens inner⟩

theorem BreaksBehind.completes {c : Chain} {d : Nat} {us rest : List Token} {kinds : List String} :
    BreaksBehind c d us rest kinds → d ≤ maxDepth → ∀ left,
    ∃ closing e p, p ≤ maxDepth ∧ Continues c d left (us ++ closing) e p
  | @BreaksBehind.operand _ d _ _ _ op _ joint hlt inner, _, left => by
    obtain ⟨closing, e, p, hp, h⟩ := inner.completes hlt
    have hmore : Continues _ d left _ (.binary op left e) _ := .more joint h .stop
    rw [List.append_nil, ← List.append_assoc] at hmore
    exact ⟨closing, _, _, Nat.max_le.2 ⟨hp, hlt⟩, hmore⟩
  | @BreaksBehind.more _ _ _ _ _ _ _ op v _ joint right hp behind, _, left => by
    obtain ⟨closing, e, q, hq, h⟩ := behind.completes (right.depth_lt hp) (.binary op left v)
    refine ⟨closing, e, _, Nat.max_le.2 ⟨hp, hq⟩, ?_⟩
    rw [List.append_assoc, List.append_assoc]
    exact .more joint right h

theorem BreaksItems.completes {d : Nat} {ts rest : List Token} {kinds : List String} :
    BreaksItems d ts rest kinds → d ≤ maxDepth →
    ∃ closing es p, p ≤ maxDepth ∧ DerivesItems d (ts ++ closing) es p
  | .item inner, hmax => by
    obtain ⟨closing, e, p, hp, h⟩ := inner.completes hmax
    exact ⟨closing, [e], p, hp, .one h⟩
  | .unclosed item hp _ _ _, _ => ⟨[], _, _, hp, by simpa using .one item⟩
  | @BreaksItems.more _ _ _ _ _ v _ item hp items, hmax => by
    obtain ⟨closing, es, q, hq, h⟩ := items.completes hmax
    refine ⟨closing, v :: es, _, Nat.max_le.2 ⟨hp, hq⟩, ?_⟩
    rw [List.append_assoc, List.cons_append]
    exact .more item h

end

-- Where an operand is missing and `not` is not named, `not` is no better than what stands there.
mutual

theorem Breaks.at_not {level : Level} {m : Bool} {d : Nat} {ts rest rest' : List Token}
    {kinds : List String} (hoperand : "integer" ∈ kinds) (hnot : "not" ∉ kinds) :
    Breaks level m d ts rest kinds → Breaks level m d ts (.not :: rest') kinds
  | .first inner => .first (inner.at_not hoperand hnot)
  | .further start hp behind => .further start hp (behind.at_not hoperand hnot)
  | .negation hlt operand => .negation hlt (operand.at_not hoperand hnot)
  | .plain hhead inner => by
    rcases first_or_head?_ne hhead .not rest' with ⟨hts, -⟩ | hhead'
    · rw [inner.kinds_of_nil hts, not_mem_expectedKinds] at hnot
      exact absurd rfl hnot
    · exact .plain hhead' (inner.at_not hoperand hnot)
  | .operand _ => .operand (by simpa using Token.not_opens (by simp))
  | .list hlt hclose items =>
    .list hlt ((first_or_head?_ne hclose .not rest').resolve_left (by simp))
      (items.at_not hoperand hnot)
  | .parens hlt inner => .parens hlt (inner.at_not hoperand hnot)
  | .unclosed _ _ _ _ => by simp at hoperand

theorem BreaksBehind.at_not {c : Chain} {d : Nat} {us rest rest' : List Token}
    {kinds : List String} (hoperand : "integer" ∈ kinds) (hnot : "not" ∉ kinds) :
    BreaksBehind c d us rest kinds → BreaksBehind c d us (.not :: rest') kinds
  | .operand joint hlt inner => .operand joint hlt (inner.at_not hoperand hnot)
  | .more joint right hp behind => .more joint right hp (behind.at_not hoperand hnot)

theorem BreaksItems.at_not {d : Nat} {ts rest rest' : List Token} {kinds : List String}
    (hoperand : "integer" ∈ kinds) (hnot : "not" ∉ kinds) :
    BreaksItems d ts rest kinds → BreaksItems d ts (.not :: rest') kinds
  | .item inner => .item (inner.at_not hoperand hnot)
  | .unclosed _ _ _ _ _ => by simp at hoperand
  | .more item hp items => .more item hp (items.at_not hoperand hnot)

end

-- With a token of a named kind behind what was read, the reader gets past that token. A level
-- tighter than that of negations does not read `not` itself. It names `not` at the start of a
-- phrase only where the phrase is read in place of a negation, and there the level of negations
-- takes the `not`.
namespace Cursor

theorem upTo_of_tokens {s : Cursor} {ts rest : List Token} (h : s.tokens = ts ++ rest) :
    s.upTo ts.length = ts := by
  rw [upTo, List.map_take]
  exact (congrArg _ h).trans List.take_left

theorem Reaches.opened {s : Cursor} {t : Token} {rest : List Token} {m : Bool}
    (hs : s.tokens = t :: rest) (ht : t.Opens) : Reaches 1 .primary m s := by
  obtain ⟨position, tail, hrest⟩ := rest_of_tokens hs
  rcases ht with hleaf | rfl | rfl
  · obtain ⟨leaf, hleaf⟩ := Option.isSome_iff_exists.1 hleaf
    exact .leaf (by rw [token_of_rest hrest, hleaf])
  · exact .list hrest fun hlt => reaches_all.2.1 _ hlt
  · exact .parens hrest fun hlt => reaches (Nat.succ_le_of_lt hlt) _ _

end Cursor

mutual

theorem Breaks.reaches {level : Level} {m : Bool} {d : Nat} {ts rest rest' : List Token} {t : Token}
    {kinds : List String} {s : Cursor} : Breaks level m d ts rest kinds → d ≤ maxDepth →
    s.depth = d → s.tokens = ts ++ t :: rest' → t.kind ∈ kinds →
    (t = .not → ts = [] → Level.negation.rank ≤ level.rank) → Reaches (ts.length + 1) level m s
  | @Breaks.first c _ _ _ _ _ inner, hmax, hd, hs, ht, hnot => by
    have hdepth : s.depth ≤ maxDepth := hd ▸ hmax
    refine .chain hdepth (inner.reaches hmax hd hs ht fun h hts => ?_) fun v hv hstops => ?_
    · have hrank := hnot h hts
      revert hrank
      cases c <;> decide
    · exact reachesChain_after hdepth hv hstops _ _
  | @Breaks.further c _ _ _ ts us _ v _ start hp behind, hmax, hd, hs, ht, _ => by
    rw [List.append_assoc] at hs
    have hstart := start.read_eq m hp hd hs (behind.stops _)
    have hbehind := behind.reaches s.depth v (s := s.after ⟨v, ts.length, d⟩) hmax rfl
      (tokens_behind hs v d) ht
    refine (Reaches.further (hd ▸ hmax) hstart hbehind).mono ?_
    simp only [upTo_of_tokens hs, List.length_append]
    omega
  | @Breaks.negation _ _ ts _ _ _ operand, _, hd, hs, ht, _ => by
    obtain ⟨position, tail, hrest⟩ := rest_of_tokens hs
    have htokens : (s.skip 1).deeper.tokens = ts ++ t :: rest' := by simp [hs]
    refine (Reaches.negation (n := ts.length + 1) hrest fun hlt => ?_).mono ?_
    · exact operand.reaches (hd ▸ hlt) (by simp [hd]) htokens ht fun _ _ => Nat.le_refl _
    · simp only [List.length_cons]
      omega
  | @Breaks.plain _ _ ts _ _ hhead inner, hmax, hd, hs, ht, _ => by
    by_cases hnot : ts = [] ∧ t = .not
    -- this level reads the `not`, so that it need not be passed on to a tighter one
    · obtain ⟨rfl, rfl⟩ := hnot
      obtain ⟨position, tail, hrest⟩ := rest_of_tokens hs
      exact .negation hrest fun hlt => Cursor.reaches (Nat.succ_le_of_lt hlt) _ _
    · have hhead' := (first_or_head?_ne hhead t rest').resolve_left hnot
      exact .plain (head?_ne_iff.1 (hs ▸ hhead'))
        (inner.reaches hmax hd hs ht fun h hts => absurd ⟨hts, h⟩ hnot)
  | .operand _, _, _, hs, ht, hnot =>
    .opened hs (Token.opens_of_kind ht fun h => absurd (hnot h rfl) (by decide))
  | @Breaks.list _ _ ts _ _ _ hclose items, _, hd, hs, ht, _ => by
    obtain ⟨position, tail, hrest⟩ := rest_of_tokens hs
    have htokens : (s.skip 1).deeper.tokens = ts ++ t :: rest' := by simp [hs]
    refine (Reaches.list (n := ts.length + 1) hrest fun hlt => ?_).mono ?_
    · rcases first_or_head?_ne hclose t rest' with ⟨rfl, rfl⟩ | hclose'
      · obtain ⟨position, tail, hrest⟩ := rest_of_tokens htokens
        exact .close hrest
      · exact .items (head?_ne_iff.1 (htokens ▸ hclose'))
          (items.reaches (hd ▸ hlt) (by simp [hd]) htokens ht)
    · simp only [List.length_cons]
      omega
  | @Breaks.parens _ _ ts _ _ _ inner, _, hd, hs, ht, _ => by
    obtain ⟨position, tail, hrest⟩ := rest_of_tokens hs
    have htokens : (s.skip 1).deeper.tokens = ts ++ t :: rest' := by simp [hs]
    refine (Reaches.parens (n := ts.length + 1) hrest fun hlt => ?_).mono ?_
    · exact inner.reaches (hd ▸ hlt) (by simp [hd]) htokens ht fun _ _ => by decide
    · simp only [List.length_cons]
      omega
  | @Breaks.unclosed _ d _ ts _ v inner hp _ _, _, hd, hs, ht, _ => by
    obtain rfl := Token.eq_rightParen_of_kind (List.mem_singleton.1 ht)
    obtain ⟨position, tail, hrest⟩ := rest_of_tokens hs
    have htokens : (s.skip 1).deeper.tokens = ts ++ .rightParen :: rest' := by simp [hs]
    have hinner := inner.read_eq true hp (s := (s.skip 1).deeper) (by simp [hd]) htokens
      (Level.stops_cons _ (by simp))
    have hclose : ((s.skip 1).deeper.after ⟨v, ts.length, d + 1⟩).token = .rightParen :=
      token_of_tokens (tokens_behind htokens v (d + 1))
    refine (Reaches.closed hrest (hd ▸ inner.depth_lt hp) hinner hclose).mono ?_
    simp only [← upTo_deeper (s.skip 1), upTo_of_tokens htokens, List.length_cons]
    omega

theorem BreaksBehind.reaches {c : Chain} {d : Nat} {us rest rest' : List Token} {t : Token}
    {kinds : List String} {s : Cursor} (base : Nat) (left : Expr) :
    BreaksBehind c d us rest kinds → d ≤ maxDepth → s.depth = d → s.tokens = us ++ t :: rest' →
    t.kind ∈ kinds → ReachesChain (us.length + 1) c base left s
  | @BreaksBehind.operand _ _ symbol ts _ _ _ joint _ inner, _, hd, hs, ht => by
    rw [List.append_assoc] at hs
    have htokens : (s.skip symbol.length).deeper.tokens = ts ++ t :: rest' := by simp [hs]
    refine (ReachesChain.operand (n := ts.length + 1) (Chain.operator?_of_joint joint hs)
      (fun hlt => inner.reaches (hd ▸ hlt) (by simp [hd]) htokens ht fun h hts => ?_)
      fun hlt right hright hstops => ?_).mono ?_
    · rw [inner.kinds_of_nil hts, h] at ht
      simpa using not_mem_expectedKinds.1 ht
    · exact reachesChain_after (Nat.succ_le_of_lt hlt) hright hstops _ _
    · simp only [List.length_append]
      omega
  | @BreaksBehind.more _ _ _ symbol ts us _ op v _ joint right hp behind, _, hd, hs, ht => by
    simp only [List.append_assoc] at hs
    have hlt := right.depth_lt hp
    have htokens : (s.skip symbol.length).deeper.tokens = ts ++ (us ++ t :: rest') := by simp [hs]
    have hright := right.read_eq false hp (s := (s.skip symbol.length).deeper) (by simp [hd])
      htokens (behind.stops _)
    have hbehind := behind.reaches base (.binary op left v)
      (s := (s.skip symbol.length).deeper.after ⟨v, ts.length, d + 1⟩) hlt rfl
      (tokens_behind htokens v (d + 1)) ht
    refine (ReachesChain.more (Chain.operator?_of_joint joint hs) (hd ▸ hlt) hright hbehind).mono ?_
    rw [← upTo_deeper, upTo_of_tokens htokens]
    simp only [List.length_append]
    omega

theorem BreaksItems.reaches {d : Nat} {ts rest rest' : List Token} {t : Token}
    {kinds : List String} {s : Cursor} : BreaksItems d ts rest kinds → d ≤ maxDepth →
    s.depth = d → s.tokens = ts ++ t :: rest' → t.kind ∈ kinds → ReachesItems (ts.length + 1) s
  | .item inner, hmax, hd, hs, ht => by
    have hdepth : s.depth ≤ maxDepth := hd ▸ hmax
    refine .item hdepth (inner.reaches hmax hd hs ht fun _ _ => by decide) fun item hitem _ => ?_
    exact reaches_all.2.2.1 _ ((read_sound hdepth hitem).after_depth_le hdepth)
  | @BreaksItems.unclosed _ _ ts _ v item hp _ _ _, hmax, hd, hs, ht => by
    have hmem := Token.mem_of_kind ht
    have hitem := item.read_eq true hp hd hs
      (Level.stops_cons _ (by rcases hmem with rfl | rfl <;> simp))
    have htokens := tokens_behind hs v d
    have hlength : (s.upTo ts.length).length = ts.length := by rw [upTo_of_tokens hs]
    rcases hmem with rfl | rfl
    · have hmore := ReachesItems.more (hd ▸ hmax) hitem (token_of_tokens htokens)
        (reaches_all.2.2.1 _ hmax)
      exact hmore.mono (Nat.succ_le_succ (Nat.le_of_eq hlength.symm))
    · exact (ReachesItems.close hitem (token_of_tokens htokens)).mono
        (Nat.succ_le_succ (Nat.le_of_eq hlength.symm))
  | @BreaksItems.more _ _ ts us _ v _ item hp items, hmax, hd, hs, ht => by
    simp only [List.append_assoc, List.cons_append] at hs
    have hitem := item.read_eq true hp hd hs (Level.stops_cons _ (by simp))
    have htokens := tokens_behind hs v d
    have hitems := items.reaches (s := (s.after ⟨v, ts.length, d⟩).skip 1) hmax rfl
      (by rw [tokens_skip, htokens, List.drop_one, List.tail_cons]) ht
    refine (ReachesItems.more (hd ▸ hmax) hitem (token_of_tokens htokens) hitems).mono ?_
    rw [upTo_of_tokens hs, List.length_append, List.length_cons]
    omega

end

end EventRouting
