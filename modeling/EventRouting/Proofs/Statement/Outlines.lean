import EventRouting.Proofs.Decimal.Layout
import EventRouting.Proofs.Statement.RoundTrip
import EventRouting.Statement.Outline

set_option autoImplicit false

namespace EventRouting

theorem Decimal.Literal.WellFormed.lineFeed_notMem {l : Decimal.Literal} (h : l.WellFormed) :
    '\n' ∉ l.text :=
  fun hmem => absurd (h.numerals _ hmem) (by decide)

theorem Binary64.lineFeed_notMem_toText (x : Binary64) : '\n' ∉ x.toText.toList := by
  by_cases h : x.isFinite = true
  · obtain ⟨l, hl, -, htext, -⟩ := Binary64.toText_literal h
    rw [← htext]
    exact hl.lineFeed_notMem
  · match x with
    | .nan => decide
    | .infinite true => decide
    | .infinite false => decide
    | .finite _ _ => exact absurd rfl h

theorem Text.lineFeed_notMem_ofInt (n : Int) : '\n' ∉ (Text.ofInt n).toList := by
  have hdigits := (Text.isDigits_toDigits n.natAbs).lineFeed_notMem
  rw [Text.ofInt, String.toList_ofList]
  split
  · exact List.not_mem_append (by decide) hdigits
  · exact hdigits

theorem Pointer.lineFeed_mem_toChars (p : Pointer) :
    '\n' ∈ p.toChars ↔ ∃ segment ∈ p.segments, '\n' ∈ segment.toList := by
  have hescape (c : Char) : '\n' ∈ escapeChar c ↔ '\n' = c := by
    unfold escapeChar
    split <;> simp
  unfold toChars
  split
  · simp
  · simp [hescape]

namespace Expr

theorem lineFeed_notMem_escapeChar (c : Char) : '\n' ∉ escapeChar c := by
  unfold escapeChar
  split
  · decide
  · decide
  · decide
  · decide
  · decide
  · rename_i _ _ hfeed _ _
    simpa using Ne.symm hfeed

theorem lineFeed_notMem_stringText (s : String) : '\n' ∉ stringText s := by
  have hflat (cs : List Char) : '\n' ∉ cs.flatMap escapeChar := by
    simp [lineFeed_notMem_escapeChar]
  have hbody : '\n' ∉ escapeBody s.toList := by
    unfold escapeBody
    split
    · exact List.not_mem_cons_of_ne_of_not_mem (by decide)
        (List.not_mem_cons_of_ne_of_not_mem (by decide) (hflat _))
    · exact hflat _
  simp [stringText, hbody]

theorem lineFeed_mem_label (e : Expr) :
    '\n' ∈ e.label.toList ↔
      ∃ p, e = .pointer p ∧ ∃ segment ∈ p.segments, '\n' ∈ segment.toList := by
  cases e with
  | float x => simp [label, x.lineFeed_notMem_toText]
  | integer n => simp [label, Text.lineFeed_notMem_ofInt]
  | string s => simp [label, lineFeed_notMem_stringText]
  | boolean b => cases b <;> simp [label, booleanText]
  | null => simp [label]
  | pointer p => simp [label, Pointer.toText, p.lineFeed_mem_toChars]
  | list items =>
    have hdigits := (Text.isDigits_toDigits items.length).lineFeed_notMem
    simp [label, Text.digits, hdigits]
  | not operand => simp [label]
  | binary op left right => cases op <;> simp [label, Operator.symbol]

mutual

/-- The nodes of an expression with their levels: parents first, then operands and items from
left to right. -/
def nodes (level : Nat) : Expr → List (Nat × Expr)
  | .list items => (level, .list items) :: itemNodes (level + 1) items
  | .not operand => (level, .not operand) :: nodes (level + 1) operand
  | .binary op left right =>
    (level, .binary op left right) :: (nodes (level + 1) left ++ nodes (level + 1) right)
  | leaf => [(level, leaf)]

def itemNodes (level : Nat) : List Expr → List (Nat × Expr)
  | [] => []
  | item :: rest => nodes level item ++ itemNodes level rest

end

def indented (node : Nat × Expr) : List Char :=
  List.replicate (2 * node.1) ' ' ++ node.2.label.toList

def linesOf (nodes : List (Nat × Expr)) : List Char :=
  nodes.flatMap fun node => indented node ++ ['\n']

theorem linesOf_cons (node : Nat × Expr) (nodes : List (Nat × Expr)) :
    linesOf (node :: nodes) = outlineLine node.1 node.2 ++ linesOf nodes := rfl

theorem linesOf_append (nodes more : List (Nat × Expr)) :
    linesOf (nodes ++ more) = linesOf nodes ++ linesOf more := List.flatMap_append

mutual

theorem outlineChars_eq (level : Nat) : ∀ e : Expr, e.outlineChars level = linesOf (e.nodes level)
  | .list items => by
    rw [outlineChars, nodes, linesOf_cons, outlineItems_eq (level + 1) items]
  | .not operand => by
    rw [outlineChars, nodes, linesOf_cons, outlineChars_eq (level + 1) operand]
  | .binary op left right => by
    rw [outlineChars, nodes, linesOf_cons, linesOf_append, outlineChars_eq (level + 1) left,
      outlineChars_eq (level + 1) right, List.append_assoc]
  | .float _ | .integer _ | .string _ | .boolean _ | .null | .pointer _ => by
    simp only [outlineChars, nodes, linesOf_cons]
    exact (List.append_nil _).symm

theorem outlineItems_eq (level : Nat) :
    ∀ items : List Expr, outlineItems level items = linesOf (itemNodes level items)
  | [] => rfl
  | item :: rest => by
    rw [outlineItems, itemNodes, linesOf_append, outlineChars_eq level item,
      outlineItems_eq level rest]

end

theorem lineFeed_mem_indented (node : Nat × Expr) :
    '\n' ∈ indented node ↔ '\n' ∈ node.2.label.toList := by
  simp [indented]

theorem count_linesOf (nodes : List (Nat × Expr)) :
    (linesOf nodes).count '\n' = nodes.length + (nodes.flatMap indented).count '\n' := by
  induction nodes with
  | nil => rfl
  | cons node nodes ih =>
    have hend : ['\n'].count '\n' = 1 := by decide
    simp only [linesOf, List.flatMap_cons, List.count_append, List.length_cons, hend] at ih ⊢
    omega

theorem splitOn_linesOf {nodes : List (Nat × Expr)} (h : ∀ node ∈ nodes, '\n' ∉ indented node) :
    (linesOf nodes).splitOn '\n' = nodes.map indented ++ [[]] := by
  induction nodes with
  | nil => rfl
  | cons node nodes ih =>
    obtain ⟨hnode, hnodes⟩ := List.forall_mem_cons.1 h
    rw [linesOf, List.flatMap_cons, ← linesOf, List.append_assoc, List.singleton_append,
      List.splitOn_append_cons_self_of_not_mem hnode, ih hnodes, List.map_cons, List.cons_append]

theorem toList_toOutline (e : Expr) : e.toOutline.toList = linesOf (e.nodes 0) := by
  rw [toOutline, String.toList_ofList, outlineChars_eq]

/-- An outline has a line for each node, its label indented by two spaces for each level below the
root and nothing else, exactly if no pointer has a line feed in a segment. -/
theorem toOutline_line_per_node_iff (e : Expr) :
    (e.toOutline.toList.count '\n' = (e.nodes 0).length ∧
      ∀ (k level : Nat) (node : Expr), (e.nodes 0)[k]? = some (level, node) →
        (e.toOutline.toList.splitOn '\n')[k]? =
          some (List.replicate (2 * level) ' ' ++ node.label.toList)) ↔
    ∀ level p, (level, .pointer p) ∈ e.nodes 0 → ∀ segment ∈ p.segments, '\n' ∉ segment.toList := by
  rw [toList_toOutline]
  constructor
  · rintro ⟨hcount, -⟩ level p hp segment hsegment hfeed
    rw [count_linesOf, Nat.add_eq_left, List.count_eq_zero] at hcount
    have hlabel := (lineFeed_mem_label (.pointer p)).2 ⟨p, rfl, segment, hsegment, hfeed⟩
    exact hcount (List.mem_flatMap.2 ⟨_, hp, (lineFeed_mem_indented _).2 hlabel⟩)
  · intro h
    have hlines : ∀ node ∈ e.nodes 0, '\n' ∉ indented node := by
      rintro ⟨level, node⟩ hnode hfeed
      obtain ⟨p, rfl, segment, hsegment, hfeed⟩ :=
        (lineFeed_mem_label node).1 ((lineFeed_mem_indented _).1 hfeed)
      exact h level p hnode segment hsegment hfeed
    constructor
    · have hnone : ((e.nodes 0).flatMap indented).count '\n' = 0 := by
        rw [List.count_eq_zero, List.mem_flatMap]
        rintro ⟨node, hnode, hfeed⟩
        exact hlines node hnode hfeed
      rw [count_linesOf, hnone, Nat.add_zero]
    · intro k level node hnode
      have hk : k < ((e.nodes 0).map indented).length := by
        rw [List.length_map]
        exact (List.getElem?_eq_some_iff.1 hnode).1
      rw [splitOn_linesOf hlines, List.getElem?_append_left hk, List.getElem?_map, hnode]
      rfl

theorem toOutline_pointer_line_feed :
    let e := Expr.pointer ⟨["a\nb"]⟩
    Statement.compile "\"/a\nb\"" = .ok ⟨"\"/a\nb\"", e⟩ ∧
      e.toOutline = "Pointer \"/a\nb\"\n" ∧ e.toOutline.toList.count '\n' = 2 ∧
      (e.nodes 0).length = 1 := by
  intro e
  have hwritable : e.Writable := List.cons_ne_nil _ _
  have htext : e.toStatement = "\"/a\nb\"" := by decide
  have hcompile := Statement.compile_canonical hwritable (Nat.zero_le _)
  rw [htext] at hcompile
  exact ⟨hcompile, by decide, by decide, by decide⟩

end Expr

end EventRouting
