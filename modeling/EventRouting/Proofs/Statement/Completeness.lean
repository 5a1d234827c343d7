import EventRouting.Proofs.Statement.Readers

set_option autoImplicit false

namespace EventRouting

open Fallible

/-- The outcome of reading what the grammar derives: the expected value if the derivation keeps
within `maxDepth`, and otherwise the complaint that the nesting is too deep. -/
def Settles {α : Type} (peak : Nat) (result : Except ParseError (Parsed α))
    (expected : Parsed α) : Prop :=
  peak ≤ maxDepth ∧ result = .ok expected ∨
    maxDepth < peak ∧ ∃ found position, result = .error (.nestingTooDeep found position)

namespace Settles

variable {α β : Type} {p q : Nat} {x : Except ParseError (Parsed α)} {a : Parsed α}
  {b : Parsed β}

theorem bind {f : Parsed α → Except ParseError (Parsed β)} (hx : Settles p x a)
    (hf : Settles q (f a) b) : Settles (max p q) (x >>= f) b := by
  rcases hx with ⟨hp, rfl⟩ | ⟨hp, found, position, rfl⟩
  · rcases hf with ⟨hq, hfa⟩ | ⟨hq, hfa⟩
    · exact .inl ⟨Nat.max_le.2 ⟨hp, hq⟩, hfa⟩
    · exact .inr ⟨Nat.lt_of_lt_of_le hq (Nat.le_max_right p q), hfa⟩
  · exact .inr ⟨Nat.lt_of_lt_of_le hp (Nat.le_max_left p q), found, position, rfl⟩

theorem bind_ok {f : Parsed α → Except ParseError (Parsed β)} (hx : Settles p x a)
    (hf : f a = .ok b) : Settles p (x >>= f) b := by
  rcases hx with ⟨hp, rfl⟩ | ⟨hp, found, position, rfl⟩
  · exact .inl ⟨hp, hf⟩
  · exact .inr ⟨hp, found, position, rfl⟩

theorem descend {s : Cursor} {d : Nat} (h : d < maxDepth → Settles p x a) (hp : d + 1 ≤ p) :
    Settles p (if d < maxDepth then x else .error s.tooDeep) a := by
  split
  · exact h ‹_›
  · exact .inr ⟨by omega, _, _, rfl⟩

end Settles

open Cursor

mutual

theorem Derives.settles {level : Level} {d p : Nat} {ts rest : List Token} {e : Expr}
    {s : Cursor} (mayNegate : Bool) :
    Derives level d ts e p → d ≤ maxDepth → s.depth = d → s.tokens = ts ++ rest →
    level.Stops rest → Settles p (s.read level mayNegate) ⟨e, ts.length, d⟩
  | @Derives.chain c _ _ _ ts us v _ first more, hmax, hd, hs, hrest => by
    rw [List.append_assoc] at hs
    have hfirst := first.settles mayNegate hmax hd hs (more.stops hrest)
    have hmore := more.settles d (s := s.after ⟨v, ts.length, d⟩) hmax rfl
      (by rw [tokens_after, hs, List.drop_left]) hrest
    rw [Cursor.read_chain, List.length_append, hd]
    exact hfirst.bind (hmore.bind_ok rfl)
  | .negation operand, _, hd, hs, hrest => by
    obtain ⟨position, tail, hcons⟩ := rest_of_tokens hs
    rw [read_not _ hcons, hd]
    refine Settles.descend (fun hlt => ?_) operand.le_peak
    have hoperand := operand.settles true (s := (s.skip 1).deeper) hlt (by simp [hd])
      (by simp [hs]) hrest
    exact hoperand.bind_ok rfl
  | .plain inner, hmax, hd, hs, hrest => by
    have hinner := inner.settles true hmax hd hs (hrest.mono (by decide))
    rwa [read_plain]
    intro position tail hcons
    exact inner.ne_not (by decide) (head_of_rest hs hcons inner.ne_nil)
  | .leaf ht, hmax, hd, hs, _ => by
    rw [read_leaf _ (by rw [token_of_tokens hs]; exact ht), hd]
    exact .inl ⟨hmax, rfl⟩
  | .emptyList, _, hd, hs, _ => by
    obtain ⟨position, tail, hcons⟩ := rest_of_tokens hs
    have htokens : (s.skip 1).deeper.tokens = .rightBracket :: rest := by simp [hs]
    obtain ⟨position', tail', hclose⟩ := rest_of_tokens htokens
    rw [read_leftBracket _ hcons, readItems_close hclose, hd]
    refine Settles.descend (fun hlt => .inl ⟨hlt, ?_⟩) (Nat.le_refl _)
    simp [hd]
  | @Derives.list _ _ ts es items, _, hd, hs, _ => by
    obtain ⟨position, tail, hcons⟩ := rest_of_tokens hs
    have htokens : (s.skip 1).deeper.tokens = ts ++ .rightBracket :: rest := by simp [hs]
    rw [read_leftBracket _ hcons, readItems_open, hd]
    · refine Settles.descend (fun hlt => ?_) items.le_peak
      have hitems := items.settles (s := (s.skip 1).deeper) hlt (by simp [hd]) htokens
      simp only [List.length_cons, List.length_append, List.length_nil]
      exact hitems.bind_ok rfl
    · intro position tail hrest
      exact items.ne_rightBracket (head_of_rest htokens hrest items.ne_nil)
  | @Derives.parens _ _ ts v inner, _, hd, hs, _ => by
    obtain ⟨position, tail, hcons⟩ := rest_of_tokens hs
    have htokens : (s.skip 1).deeper.tokens = ts ++ .rightParen :: rest := by simp [hs]
    rw [read_leftParen _ hcons, hd]
    refine Settles.descend (fun hlt => ?_) inner.le_peak
    have hinner := inner.settles true (s := (s.skip 1).deeper) hlt (by simp [hd]) htokens
      (Level.stops_cons _ (by simp))
    have hclose : ((s.skip 1).deeper.after ⟨v, ts.length, d + 1⟩).token = .rightParen :=
      token_of_tokens (by rw [tokens_after, htokens, List.drop_left])
    refine hinner.bind_ok ?_
    simp [hclose]

theorem Continues.settles {c : Chain} {d p : Nat} {ts rest : List Token} {left e : Expr}
    {s : Cursor} (base : Nat) :
    Continues c d left ts e p → d ≤ maxDepth → s.depth = d → s.tokens = ts ++ rest →
    (Level.chain c).Stops rest → Settles p (s.readChain c base left) ⟨e, ts.length, base⟩
  | .stop, hmax, _, hs, hrest => by
    rw [readChain_stop]
    · exact .inl ⟨hmax, rfl⟩
    · exact Chain.operator?_eq_none (by rw [show s.rest.map (·.token) = rest from hs]; exact hrest)
  | @Continues.more _ _ _ _ symbol ts us op _ right _ joint operand more, _, hd, hs, hrest => by
    simp only [List.append_assoc] at hs
    rw [readChain_operator (Chain.operator?_of_joint joint hs), hd]
    refine Settles.descend (fun hlt => ?_)
      (Nat.le_trans operand.le_peak (Nat.le_max_left _ _))
    have hoperand := operand.settles false (s := (s.skip symbol.length).deeper) hlt
      (by simp [hd]) (by simp [hs]) (more.stops hrest)
    have hmore := more.settles base
      (s := (s.skip symbol.length).deeper.after ⟨right, ts.length, d + 1⟩) hlt rfl
      (by simp [hs]) hrest
    simp only [List.length_append, ← Nat.add_assoc]
    exact hoperand.bind (hmore.bind_ok rfl)

theorem DerivesItems.settles {d p : Nat} {ts rest : List Token} {es : List Expr} {s : Cursor} :
    DerivesItems d ts es p → d ≤ maxDepth → s.depth = d →
    s.tokens = ts ++ .rightBracket :: rest → Settles p s.readMoreItems ⟨es, ts.length + 1, d⟩
  | @DerivesItems.one _ _ ts e item, hmax, hd, hs => by
    have hitem := item.settles true hmax hd hs (Level.stops_cons _ (by simp))
    have hclose : (s.after ⟨e, ts.length, d⟩).token = .rightBracket :=
      token_of_tokens (by rw [tokens_after, hs, List.drop_left])
    rw [readMoreItems_eq]
    refine hitem.bind_ok ?_
    simp [hclose]
  | @DerivesItems.more _ _ _ ts us e _ item items, hmax, hd, hs => by
    simp only [List.append_assoc, List.cons_append] at hs
    have hitem := item.settles true hmax hd hs (Level.stops_cons _ (by simp))
    have htokens : (s.after ⟨e, ts.length, d⟩).tokens = .comma :: (us ++ .rightBracket :: rest) :=
      by rw [tokens_after, hs, List.drop_left]
    have hitems := items.settles (s := (s.after ⟨e, ts.length, d⟩).skip 1) hmax rfl
      (by rw [tokens_skip, htokens, List.drop_one, List.tail_cons])
    rw [readMoreItems_eq]
    refine hitem.bind ?_
    simp only [token_of_tokens htokens]
    refine hitems.bind_ok ?_
    simp only [List.length_append, List.length_cons, pure_eq]
    congr 2
    omega

end
end EventRouting
