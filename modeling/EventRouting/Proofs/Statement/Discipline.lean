import EventRouting.Proofs.Statement.Progress
import EventRouting.Proofs.Statement.Recording

set_option autoImplicit false

/-!
# The discipline of the readers

At each step of parsing, whatever the tokens are: a reader that begins stands at most `maxDepth`
deep and within few others, one that has an answer stands further on at the depth at which it
began, and no level is given back that was not taken. A step keeps this if the readers at work nest
no more than the depth accounts for, which each reader hands on to those that it calls. So parsing
ends after a number of steps that is linear in the number of tokens, and the readers within each
other are bounded however many tokens there are.
-/
namespace EventRouting

/-- An expression nests in what is at work around it, and so does a negation in a negation. -/
def Reader.nests : Reader → List Activation → Bool
  | .phrase (.chain .disjunction), _ => true
  | .phrase .negation, outer :: _ => outer.reader = .phrase .negation
  | _, _ => false

/-- How many of the readers at work are those of expressions, or of negations in negations. -/
def nestings : List Activation → Nat
  | [] => 0
  | a :: active => nestings active + if a.reader.nests active then 1 else 0

/-- A step that some readers at work may take on `n` tokens. -/
def Step.Disciplined (n : Nat) (active : List Activation) : Step → Prop
  | .begin a =>
    a.depth ≤ maxDepth ∧ nestings (a :: active) ≤ maxDepth + 1 ∧
      (a :: active).length ≤ 8 * (maxDepth + 1)
  | .finish index depth =>
    ∃ a ∈ active.head?, depth = a.depth ∧ a.index < index ∧ index ≤ n
  | .surface depth => 1 ≤ depth

/-- Disciplined steps, from some readers at work to others. -/
inductive Leads (n : Nat) : List Activation → List Step → List Activation → Prop
  | nil {active : List Activation} : Leads n active [] active
  | cons {active active' : List Activation} {step : Step} {steps : List Step} :
      step.Disciplined n active → Leads n (step.after active) steps active' →
      Leads n active (step :: steps) active'

namespace Leads

variable {n : Nat} {active active' active'' : List Activation} {steps more : List Step}

theorem append (h : Leads n active steps active') (hmore : Leads n active' more active'') :
    Leads n active (steps ++ more) active'' := by
  induction h with
  | nil => exact hmore
  | cons hstep _ ih => exact .cons hstep (ih hmore)

theorem disciplined (h : Leads n active steps active') {i : Nat} {step : Step}
    (hstep : steps[i]? = some step) :
    step.Disciplined n ((steps.take i).foldl Step.after active) := by
  induction h generalizing i with
  | nil => cases hstep
  | cons hfirst _ ih =>
    cases i with
    | zero =>
      cases hstep
      exact hfirst
    | succ i => exact ih hstep

theorem after_eq (h : Leads n active steps active') : steps.foldl Step.after active = active' := by
  induction h with
  | nil => rfl
  | cons _ _ ih => exact ih

end Leads

/-- How many readers at most are within one that nests, up to the next one that does. -/
def Reader.rank : Reader → Nat
  | .phrase level => level.rank + 1
  | .items => 0

def Reader.nestings (reader : Reader) (active : List Activation) : Nat :=
  EventRouting.nestings active + if reader.nests active then 1 else 0

/-- A reader may begin at a depth within others: the depth accounts for the nestings, and they
leave room for the readers that can follow until one nests again. -/
structure Reader.Fits (reader : Reader) (active : List Activation) (depth : Nat) : Prop where
  nestings_le : reader.nestings active ≤ depth + 1
  length_le : active.length + 1 + reader.rank ≤ 8 * reader.nestings active

namespace Reader.Fits

variable {reader : Reader} {a : Activation} {active : List Activation} {depth depth' : Nat}

theorem begin (h : reader.Fits active depth) (hdepth : depth ≤ maxDepth) (n index : Nat) :
    (Step.begin ⟨reader, index, depth⟩).Disciplined n active := by
  obtain ⟨hnestings, hlength⟩ := h
  refine ⟨hdepth, ?_, ?_⟩
  · show reader.nestings active ≤ _
    omega
  · rw [List.length_cons]
    omega

theorem deeper (h : reader.Fits active depth) (hdepth : depth ≤ depth') :
    reader.Fits active depth' :=
  ⟨by have := h.nestings_le; omega, h.length_le⟩

theorem within (h : a.reader.Fits active depth) (hnests : reader.nests (a :: active) = false)
    (hrank : reader.rank < a.reader.rank) : reader.Fits (a :: active) depth := by
  obtain ⟨hnestings, hlength⟩ := h
  have hsame : reader.nestings (a :: active) = a.reader.nestings active := by
    simp [Reader.nestings, EventRouting.nestings, hnests]
  constructor
  · omega
  · rw [List.length_cons]
    omega

theorem nested (h : a.reader.Fits active depth) (hnests : reader.nests (a :: active) = true)
    (hrank : reader.rank ≤ 7) : reader.Fits (a :: active) (depth + 1) := by
  obtain ⟨hnestings, hlength⟩ := h
  have hmore : reader.nestings (a :: active) = a.reader.nestings active + 1 := by
    simp [Reader.nestings, EventRouting.nestings, hnests]
  constructor
  · omega
  · rw [List.length_cons]
    omega

theorem item {outer : Activation} (h : (Reader.phrase .primary).Fits active depth)
    (houter : outer.reader = .items) (ha : a.reader = .phrase .primary) :
    (Reader.phrase (.chain .disjunction)).Fits (outer :: a :: active) (depth + 1) := by
  obtain ⟨hnestings, hlength⟩ := h
  have hmore : (Reader.phrase (.chain .disjunction)).nestings (outer :: a :: active) =
      (Reader.phrase .primary).nestings active + 1 := by
    simp [Reader.nestings, EventRouting.nestings, Reader.nests, houter, ha]
  have hrank : (Reader.phrase .primary).rank = 1 := rfl
  have hrank' : (Reader.phrase (.chain .disjunction)).rank = 7 := rfl
  constructor
  · omega
  · rw [List.length_cons, List.length_cons]
    omega

end Reader.Fits

structure Cursor.StandsIn (n : Nat) (s : Cursor) : Prop where
  depth_le : s.depth ≤ maxDepth
  index_le : s.index + s.rest.length ≤ n

namespace Recorded

/-- While some readers are at work, `x` is `y` with disciplined steps recorded, at most `bound` of
them. With an answer the same readers are at work, and it is known how many steps it took. -/
structure Follows {α : Type} (n : Nat) (active : List Activation) (bound : Nat) (x : Recorded α)
    (y : Except ParseError α) (answers : α → Nat → Prop) : Prop where
  result : x.result = y
  leads : ∃ active', Leads n active x.steps active' ∧ ∀ a, y = .ok a → active' = active
  length_le : x.steps.length ≤ bound
  answers : ∀ a, y = .ok a → answers a x.steps.length

namespace Follows

variable {α β : Type} {n bound bound' : Nat} {active : List Activation} {x : Recorded α}
  {y : Except ParseError α} {P : α → Nat → Prop} {Q : β → Nat → Prop}

theorem pure {a : α} (h : P a 0) : Follows n active bound (pure a) (.ok a) P where
  result := rfl
  leads := ⟨active, .nil, fun _ _ => rfl⟩
  length_le := Nat.zero_le _
  answers := by
    rintro _ ⟨⟩
    exact h

theorem fail (e : ParseError) : Follows n active bound (fail e) (.error e) P where
  result := rfl
  leads := ⟨active, .nil, fun _ h => nomatch h⟩
  length_le := Nat.zero_le _
  answers := fun _ h => nomatch h

theorem imp {P' : α → Nat → Prop} (h : Follows n active bound x y P) (hbound : bound ≤ bound')
    (hP : ∀ a k, P a k → P' a k) : Follows n active bound' x y P' where
  result := h.result
  leads := h.leads
  length_le := Nat.le_trans h.length_le hbound
  answers := fun a ha => hP a _ (h.answers a ha)

theorem bind {f : α → Recorded β} {g : α → Except ParseError β}
    (hx : Follows n active bound x y P) (hbound : bound ≤ bound')
    (hf : ∀ a k, y = .ok a → P a k → ∃ more, k + more ≤ bound' ∧
      Follows n active more (f a) (g a) fun b j => Q b (k + j)) :
    Follows n active bound' (x >>= f) (y >>= g) Q := by
  obtain ⟨rfl, ⟨active', hleads, hactive⟩, hlength, hanswers⟩ := hx
  obtain ⟨steps, result⟩ := x
  cases result with
  | error e =>
    exact ⟨rfl, ⟨active', hleads, fun _ h => nomatch h⟩, Nat.le_trans hlength hbound,
      fun _ h => nomatch h⟩
  | ok a =>
    obtain ⟨more, hmore, hresult, ⟨active'', hleads', hactive'⟩, hlength', hanswers'⟩ :=
      hf a steps.length rfl (hanswers a rfl)
    obtain rfl := hactive a rfl
    refine ⟨hresult, ⟨active'', hleads.append hleads', hactive'⟩, ?_, fun b hb => ?_⟩
    · show (steps ++ (f a).steps).length ≤ bound'
      rw [List.length_append]
      omega
    · show Q b (steps ++ (f a).steps).length
      rw [List.length_append]
      exact hanswers' b hb

theorem surface {depth : Nat} {a : α} (hdepth : 1 ≤ depth) (h : P a 1) :
    Follows n active 1 (do Reading.surface depth; return a) (.ok a) P where
  result := rfl
  leads := ⟨active, .cons hdepth .nil, fun _ _ => rfl⟩
  length_le := Nat.le_refl _
  answers := by
    rintro _ ⟨⟩
    exact h

theorem within {γ : Type} {reader : Reader} {s : Cursor} {work : Recorded (Parsed γ)}
    {z : Except ParseError (Parsed γ)} {R : Parsed γ → Nat → Prop}
    (hfits : reader.Fits active s.depth) (hs : s.StandsIn n)
    (hadvances : ∀ r, z = .ok r → s.Advances r)
    (h : Follows n (⟨reader, s.index, s.depth⟩ :: active) bound work z fun r k => R r (k + 2)) :
    Follows n active (bound + 2) (Reading.within reader s work) z R := by
  have hbegin := hfits.begin hs.depth_le n s.index
  obtain ⟨rfl, ⟨active', hleads, hactive⟩, hlength, hanswers⟩ := h
  obtain ⟨steps, result⟩ := work
  cases result with
  | error e =>
    refine ⟨rfl, ⟨active', .cons hbegin hleads, fun _ h => nomatch h⟩, ?_, fun _ h => nomatch h⟩
    exact Nat.le_trans (Nat.succ_le_succ hlength) (Nat.le_succ _)
  | ok r =>
    obtain rfl := hactive r rfl
    have hfinish : (Step.finish (s.index + r.taken) r.depth).Disciplined n
        (⟨reader, s.index, s.depth⟩ :: active) := by
      obtain ⟨hdepth, hpos, htaken⟩ := hadvances r rfl
      have hindex := hs.index_le
      refine ⟨_, rfl, hdepth, Nat.lt_add_of_pos_right hpos, ?_⟩
      omega
    refine ⟨rfl, ⟨active, .cons hbegin (hleads.append (.cons hfinish .nil)), fun _ _ => rfl⟩,
      ?_, ?_⟩
    · show (steps ++ [_]).length + 1 ≤ bound + 2
      rw [List.length_append]
      exact Nat.succ_le_succ (Nat.succ_le_succ hlength)
    · rintro _ ⟨⟩
      show R r ((steps ++ [_]).length + 1)
      rw [List.length_append]
      exact hanswers r rfl

theorem spent (h : Follows n active bound x y P) :
    Follows n active bound x y fun a k => k ≤ bound ∧ P a k where
  result := h.result
  leads := h.leads
  length_le := h.length_le
  answers := fun a ha => ⟨h.length_le, h.answers a ha⟩

theorem map {f : α → β} (hx : Follows n active bound x y P)
    (hf : ∀ a k, y = .ok a → P a k → Q (f a) k) :
    Follows n active bound (do let a ← x; return f a) (do let a ← y; return f a) Q :=
  hx.spent.bind (Nat.le_refl _) fun a k ha h => ⟨0, h.1, .pure (hf a k ha h.2)⟩

theorem descend {s : Cursor} {e : ParseError}
    (h : s.depth < maxDepth → Follows n active bound x y P) :
    Follows n active bound (if s.depth < maxDepth then x else Reading.fail e)
      (if s.depth < maxDepth then y else .error e) P := by
  split
  · exact h ‹_›
  · exact .fail e

end Follows
end Recorded

namespace Cursor

open Recorded

namespace StandsIn

variable {n : Nat} {s : Cursor}

theorem after {α : Type} {r : Parsed α} (h : s.StandsIn n) (hr : s.Advances r) :
    (s.after r).StandsIn n := by
  obtain ⟨hdepth, hindex⟩ := h
  obtain ⟨hsame, -, htaken⟩ := hr
  constructor
  · rwa [after_depth, hsame]
  · rw [length_after]
    show s.index + r.taken + _ ≤ n
    omega

theorem skip {k : Nat} (h : s.StandsIn n) (hk : k ≤ s.rest.length) : (s.skip k).StandsIn n := by
  obtain ⟨hdepth, hindex⟩ := h
  have hlength : (s.skip k).rest.length = s.rest.length - k := List.length_drop
  refine ⟨hdepth, ?_⟩
  show s.index + k + _ ≤ n
  omega

theorem deeper (h : s.StandsIn n) (hlt : s.depth < maxDepth) : s.deeper.StandsIn n :=
  ⟨hlt, h.index_le⟩

end StandsIn

/-- Recording the reader of a level. The tokens that are taken pay for the steps: one token for
the readers that begin at it, of which each level has one, and for the level that it may take. -/
def RecordsPhrase (level : Level) (m : Bool) (s : Cursor) : Prop :=
  ∀ (n : Nat) (active : List Activation), s.StandsIn n →
    (Reader.phrase level).Fits active s.depth →
    Follows n active (16 * s.rest.length + 2 * level.rank + 2) (s.phrase level m)
      (s.read level m) fun r k => k + 12 ≤ 16 * r.taken + 2 * level.rank

def RecordsBody (level : Level) (m : Bool) (s : Cursor) : Prop :=
  ∀ (n : Nat) (active : List Activation), s.StandsIn n →
    (Reader.phrase level).Fits active s.depth →
    Follows n (⟨.phrase level, s.index, s.depth⟩ :: active) (16 * s.rest.length + 2 * level.rank)
      (s.phraseBody level m) (s.read level m) fun r k => k + 14 ≤ 16 * r.taken + 2 * level.rank

def RecordsChain (c : Chain) (base : Nat) (left : Expr) (s : Cursor) : Prop :=
  ∀ (n : Nat) (active : List Activation), s.StandsIn n →
    (Reader.phrase c.operand).Fits active s.depth →
    Follows n active (16 * s.rest.length) (s.operands c base left) (s.readChain c base left)
      fun r k => k ≤ 16 * r.taken

def RecordsMoreItems (s : Cursor) : Prop :=
  ∀ (n : Nat) (active : List Activation), s.StandsIn n →
    (Reader.phrase (.chain .disjunction)).Fits active s.depth →
    Follows n active (16 * s.rest.length + 14) s.moreItems s.readMoreItems
      fun r k => k + 16 ≤ 16 * r.taken

def RecordsItems (s : Cursor) : Prop :=
  ∀ (n : Nat) (active : List Activation), s.StandsIn n →
    Reader.items.Fits active s.depth →
    (Reader.phrase (.chain .disjunction)).Fits (⟨.items, s.index, s.depth⟩ :: active) s.depth →
    Follows n active (16 * s.rest.length + 16) s.items s.readItems
      fun r k => k + 14 ≤ 16 * r.taken

section

variable {s : Cursor} {position : Position} {tail : List Placed} {m : Bool}

theorem RecordsBody.phrase {level : Level} (h : RecordsBody level m s) :
    RecordsPhrase level m s := by
  intro n active hs hfits
  rw [phrase_eq]
  exact .within hfits hs (fun _ => read_advances) (h n active hs hfits)

theorem surfaces {α β : Type} {inner : Parsed α} {b : β} {n : Nat} {active : List Activation}
    {P : β → Nat → Prop} (hinner : (s.skip 1).deeper.Advances inner) (h : P b 1) :
    Follows n active 1 (do Reading.surface inner.depth; return b) (.ok b) P := by
  have hdepth : inner.depth = s.depth + 1 := hinner.depth
  exact .surface (by omega) h

theorem RecordsBody.chain {c : Chain} (h : RecordsPhrase c.operand m s)
    (hmore : ∀ first : Parsed Expr, RecordsChain c s.depth first.value (s.after first)) :
    RecordsBody (.chain c) m s := by
  intro n active hs hfits
  have hrank := c.rank_operand_lt
  have hoperand : (Reader.phrase c.operand).Fits
      (⟨.phrase (.chain c), s.index, s.depth⟩ :: active) s.depth :=
    hfits.within (by cases c <;> rfl) (Nat.succ_lt_succ hrank)
  rw [phraseBody_chain, read_chain]
  refine (h n _ hs hoperand).bind (by omega) fun first k hread hk => ?_
  have hfirst := read_advances hread
  have htaken := hfirst.taken_le
  have hafter := s.length_after first
  refine ⟨16 * (s.after first).rest.length, by omega, ?_⟩
  refine (hmore first n _ (hs.after hfirst) ?_).map fun all j _ hj => ?_
  · rwa [after_depth, hfirst.depth]
  · show k + j + 14 ≤ 16 * (first.taken + all.taken) + 2 * (Level.chain c).rank
    omega

theorem RecordsBody.negation (hrest : s.rest = ⟨.not, position⟩ :: tail)
    (h : s.depth < maxDepth → RecordsPhrase .negation true (s.skip 1).deeper) :
    RecordsBody .negation m s := by
  intro n active hs hfits
  have hlength := length_pos_of_rest hrest
  have hinner := s.length_inner 1
  rw [phraseBody_not _ hrest, read_not _ hrest]
  refine .descend fun hlt => ?_
  refine (h hlt n _ ((hs.skip hlength).deeper hlt) (hfits.nested rfl (by decide))).bind
    (by omega) fun operand k hread hk => ?_
  have htaken := (read_advances hread).taken_le
  refine ⟨1, by omega, surfaces (read_advances hread) ?_⟩
  show k + 1 + 14 ≤ 16 * (operand.taken + 1) + 2 * Level.negation.rank
  omega

theorem RecordsBody.plain (hrest : ∀ position tail, s.rest ≠ ⟨.not, position⟩ :: tail)
    (h : RecordsPhrase (.chain .equality) true s) : RecordsBody .negation m s := by
  intro n active hs hfits
  have hrank : Level.negation.rank = (Level.chain .equality).rank + 1 := rfl
  have hequality : (Reader.phrase (.chain .equality)).Fits
      (⟨.phrase .negation, s.index, s.depth⟩ :: active) s.depth :=
    .within hfits rfl (Nat.lt_succ_self 4)
  rw [phraseBody_plain _ hrest, read_plain _ hrest]
  exact (h n _ hs hequality).imp (by omega) fun r k hk => by omega

theorem RecordsBody.leaf {e : Expr} (hleaf : s.token.leaf? = some e) :
    RecordsBody .primary m s := by
  intro n active hs hfits
  rw [phraseBody_leaf _ hleaf, read_leaf _ hleaf]
  refine .pure ?_
  show 0 + 14 ≤ 16 * 1
  decide

theorem RecordsBody.list (hrest : s.rest = ⟨.leftBracket, position⟩ :: tail)
    (h : s.depth < maxDepth → RecordsItems (s.skip 1).deeper) : RecordsBody .primary m s := by
  intro n active hs hfits
  have hlength := length_pos_of_rest hrest
  have hinner := s.length_inner 1
  have hbrackets : Reader.items.Fits (⟨.phrase .primary, s.index, s.depth⟩ :: active)
      (s.depth + 1) :=
    .deeper (.within hfits rfl Nat.one_pos) (Nat.le_succ _)
  rw [phraseBody_leftBracket _ hrest, read_leftBracket _ hrest]
  refine .descend fun hlt => ?_
  refine (h hlt n _ ((hs.skip hlength).deeper hlt) hbrackets (hfits.item rfl rfl)).bind
    (by omega) fun items k hread hk => ?_
  have htaken := (readItems_advances hread).taken_le
  refine ⟨1, by omega, surfaces (readItems_advances hread) ?_⟩
  show k + 1 + 14 ≤ 16 * (items.taken + 1)
  omega

theorem RecordsBody.parens (hrest : s.rest = ⟨.leftParen, position⟩ :: tail)
    (h : s.depth < maxDepth → RecordsPhrase (.chain .disjunction) true (s.skip 1).deeper) :
    RecordsBody .primary m s := by
  intro n active hs hfits
  have hlength := length_pos_of_rest hrest
  have hinner := s.length_inner 1
  have hrank : (Level.chain .disjunction).rank = 6 := rfl
  rw [phraseBody_leftParen _ hrest, read_leftParen _ hrest]
  refine .descend fun hlt => ?_
  refine (h hlt n _ ((hs.skip hlength).deeper hlt) (hfits.nested rfl (by decide))).bind
    (by omega) fun content k hread hk => ?_
  have htaken := (read_advances hread).taken_le
  refine ⟨1, by omega, ?_⟩
  cases ((s.skip 1).deeper.after content).token with
  | rightParen =>
    refine surfaces (read_advances hread) ?_
    show k + 1 + 14 ≤ 16 * (content.taken + 2)
    omega
  | _ => exact .fail _

theorem RecordsBody.unopened (hleaf : s.token.leaf? = none)
    (hbracket : ∀ position tail, s.rest ≠ ⟨.leftBracket, position⟩ :: tail)
    (hparen : ∀ position tail, s.rest ≠ ⟨.leftParen, position⟩ :: tail) :
    RecordsBody .primary m s := by
  intro n active hs hfits
  rw [phraseBody_unopened _ hleaf hbracket hparen, read_unopened _ hleaf hbracket hparen]
  exact .fail _

theorem RecordsChain.stop {c : Chain} {base : Nat} {left : Expr}
    (hop : c.operator? s.rest = none) : RecordsChain c base left s := by
  intro n active _ _
  rw [operands_stop hop, readChain_stop hop]
  exact .pure (Nat.zero_le _)

theorem RecordsChain.more {c : Chain} {base k : Nat} {left : Expr} {op : Operator}
    (hop : c.operator? s.rest = some (op, k))
    (h : s.depth < maxDepth → RecordsPhrase c.operand false (s.skip k).deeper)
    (hmore : s.depth < maxDepth → ∀ right : Parsed Expr,
      RecordsChain c base (.binary op left right.value) ((s.skip k).deeper.after right)) :
    RecordsChain c base left s := by
  intro n active hs hfits
  obtain ⟨hk, hlength⟩ := Chain.operator?_length hop
  have hinner := s.length_inner k
  have hrank := c.operand.rank_le
  rw [operands_operator hop, readChain_operator hop]
  refine .descend fun hlt => ?_
  have hs' := (hs.skip hlength).deeper hlt
  have hfits' := hfits.deeper (Nat.le_succ _)
  refine (h hlt n active hs' hfits').bind (by omega) fun right i hread hi => ?_
  have hright := read_advances hread
  have htaken := hright.taken_le
  have hafter := (s.skip k).deeper.length_after right
  refine ⟨16 * ((s.skip k).deeper.after right).rest.length, by omega, ?_⟩
  refine (hmore hlt right n active (hs'.after hright) ?_).map fun all j _ hj => ?_
  · rwa [after_depth, hright.depth]
  · show i + j ≤ 16 * (k + right.taken + all.taken)
    omega

theorem RecordsItems.close (hrest : s.rest = ⟨.rightBracket, position⟩ :: tail) :
    RecordsItems s := by
  intro n active hs hfits _
  rw [items_eq, itemsBody_close hrest]
  refine .within hfits hs (fun _ => readItems_advances) ?_
  rw [readItems_close hrest]
  refine .pure ?_
  show 2 + 14 ≤ 16 * 1
  decide

theorem RecordsItems.items (hclose : ∀ position tail, s.rest ≠ ⟨.rightBracket, position⟩ :: tail)
    (h : RecordsMoreItems s) : RecordsItems s := by
  intro n active hs hfits hitem
  rw [items_eq, itemsBody_open hclose]
  refine .within hfits hs (fun _ => readItems_advances) ?_
  rw [readItems_open hclose]
  exact (h n _ hs hitem).imp (Nat.le_refl _) fun r k hk => by omega

theorem RecordsMoreItems.item (h : RecordsPhrase (.chain .disjunction) true s)
    (hmore : ∀ item : Parsed Expr, (s.after item).token = .comma →
      RecordsMoreItems ((s.after item).skip 1)) : RecordsMoreItems s := by
  intro n active hs hfits
  have hrank : (Level.chain .disjunction).rank = 6 := rfl
  rw [moreItems_eq, readMoreItems_eq]
  refine (h n active hs hfits).bind (by omega) fun item k hread hk => ?_
  have hitem := read_advances hread
  have htaken := hitem.taken_le
  have hafter := s.length_after item
  cases htoken : (s.after item).token with
  | rightBracket =>
    refine ⟨0, by omega, .pure ?_⟩
    show k + 0 + 16 ≤ 16 * (item.taken + 1)
    omega
  | comma =>
    obtain ⟨_, _, hbehind⟩ := token_eq htoken (by simp)
    have hlength := length_pos_of_rest hbehind
    have hskip : ((s.after item).skip 1).rest.length = (s.after item).rest.length - 1 :=
      List.length_drop
    refine ⟨16 * ((s.after item).skip 1).rest.length + 14, by omega, ?_⟩
    refine (hmore item htoken n active ((hs.after hitem).skip hlength) ?_).map fun more j _ hj => ?_
    · rwa [skip_depth, after_depth, hitem.depth]
    · show k + j + 16 ≤ 16 * (item.taken + 1 + more.taken)
      omega
  | _ => exact ⟨0, by omega, .fail _⟩

end

theorem records_all :
    (∀ (level : Level) (m : Bool) (s : Cursor), RecordsPhrase level m s) ∧
    (∀ s : Cursor, RecordsItems s) ∧
    (∀ s : Cursor, RecordsMoreItems s) ∧
    ∀ (c : Chain) (base : Nat) (left : Expr) (s : Cursor), RecordsChain c base left s := by
  apply readers_induct RecordsPhrase RecordsItems RecordsMoreItems RecordsChain
  case chain => exact fun m s c ih ihMore => (RecordsBody.chain ih ihMore).phrase
  case negation => exact fun m s position tail hrest ih => (RecordsBody.negation hrest ih).phrase
  case plain => exact fun m s hrest ih => (RecordsBody.plain hrest ih).phrase
  case leaf => exact fun m s leaf hleaf => (RecordsBody.leaf hleaf).phrase
  case list => exact fun m s position tail hrest ih => (RecordsBody.list hrest ih).phrase
  case parens => exact fun m s position tail hrest ih => (RecordsBody.parens hrest ih).phrase
  case unopened =>
    exact fun m s hleaf hbracket hparen => (RecordsBody.unopened hleaf hbracket hparen).phrase
  case close => exact fun s position tail hrest => .close hrest
  case items => exact fun s hrest ih => .items hrest ih
  case item => exact fun s ih ihMore => .item ih ihMore
  case stop => exact fun c base left s hop => .stop hop
  case operand => exact fun c base left s op n hop ih ihMore => .more hop ih ihMore

end Cursor

theorem recordParse_follows (tokens : List Placed) :
    Recorded.Follows tokens.length [] (16 * tokens.length + 14) (recordParse tokens)
      (parse tokens) fun _ _ => True := by
  have hstands : (Cursor.ofTokens tokens).StandsIn tokens.length :=
    ⟨Nat.zero_le _, Nat.le_of_eq (Nat.zero_add _)⟩
  have hfits : (Reader.phrase (.chain .disjunction)).Fits [] 0 := ⟨by decide, by decide⟩
  have hread := Cursor.records_all.1 _ true (Cursor.ofTokens tokens) _ [] hstands hfits
  refine hread.bind (Nat.le_refl _) fun all k hall hk => ?_
  refine ⟨0, ?_, ?_⟩
  · have htaken : all.taken ≤ tokens.length := (Cursor.read_advances hall).taken_le
    have hrank : (Level.chain .disjunction).rank = 6 := rfl
    omega
  · cases ((Cursor.ofTokens tokens).after all).token with
    | eof => exact .pure trivial
    | _ => exact .fail _

/-- For any tokens: recording the steps of parsing leaves its result as it is. There are at most
linearly many steps, each of them is one that the readers then at work may take, and behind them
none is at work if there is a result. -/
theorem parse_disciplined (tokens : List Placed) :
    (recordParse tokens).result = parse tokens ∧
    (recordParse tokens).steps.length ≤ 16 * tokens.length + 14 ∧
    (∀ (i : Nat) (step : Step), (recordParse tokens).steps[i]? = some step →
      step.Disciplined tokens.length (activeAfter ((recordParse tokens).steps.take i))) ∧
    ∀ e, parse tokens = .ok e → activeAfter (recordParse tokens).steps = [] := by
  obtain ⟨hresult, ⟨active, hleads, hactive⟩, hlength, -⟩ := recordParse_follows tokens
  refine ⟨hresult, hlength, fun i step hstep => hleads.disciplined hstep, fun e he => ?_⟩
  rw [← hactive e he]
  exact hleads.after_eq

theorem parse_disciplined_negations :
    let tokens : List Placed := [⟨.not, .start⟩, ⟨.not, .start⟩]
    let active := activeAfter ((recordParse tokens).steps.take 4)
    let step := Step.begin ⟨.phrase .negation, 2, 2⟩
    (recordParse tokens).steps[4]? = some step ∧ step.Disciplined 2 active ∧
      nestings active = 2 := by
  intro tokens active step
  have hsteps : (recordParse tokens).steps.take 5 =
      [.begin ⟨.phrase (.chain .disjunction), 0, 0⟩, .begin ⟨.phrase (.chain .conjunction), 0, 0⟩,
        .begin ⟨.phrase .negation, 0, 0⟩, .begin ⟨.phrase .negation, 1, 1⟩, step] := by
    simp only [tokens, recordParse, statement, Cursor.phrase, Cursor.phraseBody, Cursor.ofTokens,
      Cursor.skip, Cursor.deeper, Chain.operand, List.drop_succ_cons, List.drop_zero]
    rfl
  have hstep : (recordParse tokens).steps[4]? = some step := by
    rw [← List.getElem?_take_of_lt (Nat.lt_succ_self 4), hsteps]
    rfl
  have hactive : (recordParse tokens).steps.take 4 =
      ((recordParse tokens).steps.take 5).take 4 := by
    rw [List.take_take]
    rfl
  refine ⟨hstep, (parse_disciplined tokens).2.2.1 4 step hstep, ?_⟩
  show nestings (activeAfter ((recordParse tokens).steps.take 4)) = 2
  rw [hactive, hsteps]
  rfl

end EventRouting
