import EventRouting.Proofs.Statement.Readers

set_option autoImplicit false

/-!
# The mark of a comparison

A parser can keep a mark, the index at which a comparison began last, and say that `not` is expected
where it stands. The readers say so of themselves, by what they hand on to each other. Both complain
of the same: the mark never stands ahead of the cursor, and below the level of negation it stands at
the cursor exactly if nothing binds tighter in front.
-/
namespace EventRouting

open Fallible

abbrev Marked (α : Type) := StateT (Option Nat) (Except ParseError) α

namespace Marked

instance : Reading Marked where
  fail e := throw e
  within _ _ work := work
  surface _ := return
  plain s := set (some s.index)
  expected _ s := do return expectedKinds (decide ((← get) = some s.index))

/-- From the mark `k`, `x` gives what `y` gives. -/
structure Agrees {α : Type} (k : Option Nat) (x : Marked α) (y : Except ParseError α)
    (marks : α → Option Nat → Prop) : Prop where
  ok : ∀ a, y = .ok a → ∃ k', x k = .ok (a, k') ∧ marks a k'
  error : ∀ e, y = .error e → x k = .error e

namespace Agrees

variable {α β : Type} {k : Option Nat} {x : Marked α} {y : Except ParseError α}
  {P : α → Option Nat → Prop} {Q : β → Option Nat → Prop}

theorem pure {a : α} (h : P a k) : Agrees k (pure a) (.ok a) P where
  ok := by
    rintro _ ⟨⟩
    exact ⟨k, rfl, h⟩
  error := fun _ h => nomatch h

theorem fail (e : ParseError) : Agrees k (Reading.fail e) (.error e) P where
  ok := fun _ h => nomatch h
  error := by
    rintro _ ⟨⟩
    rfl

theorem bind {f : α → Marked β} {g : α → Except ParseError β} (hx : Agrees k x y P)
    (hf : ∀ a k', P a k' → Agrees k' (f a) (g a) Q) : Agrees k (x >>= f) (y >>= g) Q := by
  have hbind : (x >>= f) k = x k >>= fun r => f r.1 r.2 := rfl
  cases y with
  | error e =>
    rw [error_bind]
    refine ⟨nofun, ?_⟩
    rintro _ ⟨⟩
    rw [hbind, hx.error e rfl, error_bind]
  | ok a =>
    obtain ⟨k', hx, ha⟩ := hx.ok a rfl
    rw [hx, ok_bind] at hbind
    rw [ok_bind]
    exact ⟨fun b hb => hbind ▸ (hf a k' ha).ok b hb, fun e he => hbind ▸ (hf a k' ha).error e he⟩

theorem descend {s : Cursor} {e : ParseError} (h : s.depth < maxDepth → Agrees k x y P) :
    Agrees k (if s.depth < maxDepth then x else Reading.fail e)
      (if s.depth < maxDepth then y else .error e) P := by
  split
  · exact h ‹_›
  · exact .fail e

end Agrees

def Before (k : Option Nat) (i : Nat) : Prop := ∀ j ∈ k, j < i

theorem Before.mono {k : Option Nat} {i i' : Nat} (h : Before k i) (hi : i ≤ i') : Before k i' :=
  fun j hj => Nat.lt_of_lt_of_le (h j hj) hi

/-- A mark with which a level can be read: it is not ahead, and below negation it is here exactly
if `not` could stand here. -/
structure Fits (level : Level) (m : Bool) (s : Cursor) (k : Option Nat) : Prop where
  before : Before k (s.index + 1)
  here : level.rank < Level.negation.rank → (m = true ↔ k = some s.index)

namespace Fits

variable {m : Bool} {s : Cursor} {k : Option Nat} {c : Chain}

theorem operand (h : Fits (.chain c) m s k) : Fits c.operand m s k := by
  refine ⟨h.before, fun hrank => h.here ?_⟩
  cases c <;> first | decide | exact absurd hrank (by decide)

theorem outer {level : Level} (hlevel : Level.negation.rank ≤ level.rank)
    (h : Before k (s.index + 1)) : Fits level m s k :=
  ⟨h, fun hrank => absurd hrank (Nat.not_lt.2 hlevel)⟩

theorem comparison (s : Cursor) : Fits (.chain .equality) true s (some s.index) := by
  refine ⟨?_, fun _ => iff_of_true rfl rfl⟩
  rintro _ ⟨⟩
  exact Nat.lt_succ_self _

theorem behind {i : Nat} (level : Level) (h : Before k i) (hi : i ≤ s.index) :
    Fits level false s k := by
  refine ⟨h.mono (Nat.le_succ_of_le hi), fun _ => iff_of_false Bool.false_ne_true ?_⟩
  rintro rfl
  exact absurd (h s.index rfl) (Nat.not_lt.2 hi)

theorem expected {level : Level} (h : Fits level m s k)
    (hlevel : level.rank < Level.negation.rank) : decide (k = some s.index) = m := by
  rw [Bool.eq_iff_iff, decide_eq_true_eq]
  exact (h.here hlevel).symm

end Fits

def AgreesPhrase (level : Level) (m : Bool) (s : Cursor) : Prop :=
  ∀ k, Fits level m s k →
    Agrees k (s.phrase level m) (s.read level m) fun r k' => Before k' (s.index + r.taken)

def AgreesChain (c : Chain) (base : Nat) (left : Expr) (s : Cursor) : Prop :=
  ∀ k, Before k s.index →
    Agrees k (s.operands c base left) (s.readChain c base left)
      fun r k' => Before k' (s.index + r.taken)

def AgreesItems (s : Cursor) : Prop :=
  ∀ k, Before k (s.index + 1) →
    Agrees k s.items s.readItems fun r k' => Before k' (s.index + r.taken)

def AgreesMoreItems (s : Cursor) : Prop :=
  ∀ k, Before k (s.index + 1) →
    Agrees k s.moreItems s.readMoreItems fun r k' => Before k' (s.index + r.taken)

end Marked

open Cursor Marked

theorem agrees_all :
    (∀ (level : Level) (m : Bool) (s : Cursor), AgreesPhrase level m s) ∧
    (∀ s : Cursor, AgreesItems s) ∧
    (∀ s : Cursor, AgreesMoreItems s) ∧
    ∀ (c : Chain) (base : Nat) (left : Expr) (s : Cursor), AgreesChain c base left s := by
  apply readers_induct AgreesPhrase AgreesItems AgreesMoreItems AgreesChain
  case chain =>
    intro m s c ihFirst ihMore k hk
    rw [phrase_eq, phraseBody_chain, read_chain]
    refine (ihFirst k hk.operand).bind fun first k' hfirst => ?_
    refine (ihMore first k' hfirst).bind fun all k'' hall => .pure ?_
    exact hall.mono (Nat.le_of_eq (Nat.add_assoc _ _ _))
  case negation =>
    intro m s position tail hrest ih k hk
    rw [phrase_eq, phraseBody_not _ hrest, read_not _ hrest]
    refine .descend fun hlt => ?_
    have hinner : Fits .negation true (s.skip 1).deeper k :=
      .outer (Nat.le_refl _) (hk.before.mono (Nat.le_succ _))
    refine (ih hlt k hinner).bind fun operand k' hoperand => .pure (hoperand.mono ?_)
    show s.index + 1 + operand.taken ≤ s.index + (operand.taken + 1)
    omega
  case plain =>
    intro m s hrest ih k _
    rw [phrase_eq, phraseBody_plain _ hrest, read_plain _ hrest]
    -- A comparison begins: whatever the mark was, it is here now.
    have hcomparison := ih _ (Fits.comparison s)
    exact ⟨hcomparison.ok, hcomparison.error⟩
  case leaf =>
    intro m s leaf hleaf k hk
    rw [phrase_eq, phraseBody_leaf _ hleaf, read_leaf _ hleaf]
    exact .pure hk.before
  case list =>
    intro m s position tail hrest ih k hk
    rw [phrase_eq, phraseBody_leftBracket _ hrest, read_leftBracket _ hrest]
    refine .descend fun hlt => ?_
    refine (ih hlt k (hk.before.mono (Nat.le_succ _))).bind fun items k' hitems =>
      .pure (hitems.mono ?_)
    show s.index + 1 + items.taken ≤ s.index + (items.taken + 1)
    omega
  case parens =>
    intro m s position tail hrest ih k hk
    rw [phrase_eq, phraseBody_leftParen _ hrest, read_leftParen _ hrest]
    refine .descend fun hlt => ?_
    have hinner : Fits (.chain .disjunction) true (s.skip 1).deeper k :=
      .outer (by decide) (hk.before.mono (Nat.le_succ _))
    refine (ih hlt k hinner).bind fun content k' hcontent => ?_
    cases ((s.skip 1).deeper.after content).token with
    | rightParen =>
      refine .pure (hcontent.mono ?_)
      show s.index + 1 + content.taken ≤ s.index + (content.taken + 2)
      omega
    | _ => exact .fail _
  case unopened =>
    intro m s hleaf hbracket hparen k hk
    rw [phrase_eq, phraseBody_unopened _ hleaf hbracket hparen,
      read_unopened _ hleaf hbracket hparen, ← hk.expected (by decide)]
    refine ⟨nofun, ?_⟩
    rintro _ ⟨⟩
    rfl
  case close =>
    intro s position tail hrest k hk
    rw [items_eq, itemsBody_close hrest, readItems_close hrest]
    exact .pure hk
  case items =>
    intro s hrest ih k hk
    rw [items_eq, itemsBody_open hrest, readItems_open hrest]
    exact ih k hk
  case item =>
    intro s ihItem ihMore k hk
    rw [moreItems_eq, readMoreItems_eq]
    refine (ihItem k (.outer (by decide) hk)).bind fun item k' hitem => ?_
    cases htoken : (s.after item).token with
    | rightBracket => exact .pure (hitem.mono (Nat.le_succ _))
    | comma =>
      have hmore : Before k' (((s.after item).skip 1).index + 1) :=
        hitem.mono (Nat.le_add_right _ 2)
      refine (ihMore item htoken k' hmore).bind fun more k'' hmore => .pure (hmore.mono ?_)
      show s.index + item.taken + 1 + more.taken ≤ s.index + (item.taken + 1 + more.taken)
      omega
    | _ => exact .fail _
  case stop =>
    intro c base left s hop k hk
    rw [operands_stop hop, readChain_stop hop]
    exact .pure hk
  case operand =>
    intro c base left s op n hop ihRight ihMore k hk
    rw [operands_operator hop, readChain_operator hop]
    refine .descend fun hlt => ?_
    -- Behind an operator the mark is in the past, so `not` is not offered there.
    have hinner : Fits c.operand false (s.skip n).deeper k := .behind _ hk (Nat.le_add_right _ n)
    refine (ihRight hlt k hinner).bind fun right k' hright => ?_
    refine (ihMore hlt right k' hright).bind fun all k'' hall => .pure (hall.mono ?_)
    show s.index + n + right.taken + all.taken ≤ s.index + (n + right.taken + all.taken)
    omega

/-- Parsing with a mark in place of `mayNegate`, which is not looked at, gives what `parse` does,
complaints included. -/
theorem statement_marked (tokens : List Placed) :
    (statement (m := Marked) tokens).run' none = parse tokens := by
  have hfits : Fits (.chain .disjunction) true (ofTokens tokens) none :=
    .outer (by decide) fun _ h => nomatch h
  have hread := agrees_all.1 _ true _ none hfits
  have hall : Agrees none (statement (m := Marked) tokens) (parse tokens) fun _ _ => True := by
    refine hread.bind fun all k _ => ?_
    cases ((ofTokens tokens).after all).token with
    | eof => exact .pure trivial
    | _ => exact .fail _
  have hrun : (statement (m := Marked) tokens).run' none =
      (·.1) <$> statement (m := Marked) tokens none := rfl
  rw [hrun]
  cases hparse : parse tokens with
  | ok e =>
    obtain ⟨k, hmarked, -⟩ := hall.ok e hparse
    rw [hmarked]
    rfl
  | error e =>
    rw [hall.error e hparse]
    rfl

end EventRouting
