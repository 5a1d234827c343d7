import Mathlib.Data.List.Basic

set_option autoImplicit false

namespace EventRouting.Occurrences

variable {α : Type} [DecidableEq α]

theorem eraseDups_concat (items : List α) (a : α) :
    (items ++ [a]).eraseDups =
      if a ∈ items then items.eraseDups else items.eraseDups ++ [a] := by
  rw [List.eraseDups_append]
  split <;> simp_all [List.removeAll, List.eraseDups_cons]

theorem eraseDups_in_order (items : List α) :
    items.eraseDups.Pairwise fun a b => items.idxOf a < items.idxOf b := by
  obtain ⟨reversed, rfl⟩ : ∃ reversed : List α, items = reversed.reverse :=
    ⟨items.reverse, by simp⟩
  induction reversed with
  | nil => simp
  | cons item reversed ih =>
    have hindex {other : α} (h : other ∈ reversed.reverse) :
        (reversed.reverse ++ [item]).idxOf other = reversed.reverse.idxOf other := by
      rw [List.idxOf_append, if_pos h]
    have hbefore : reversed.reverse.eraseDups.Pairwise fun a b =>
        (reversed.reverse ++ [item]).idxOf a < (reversed.reverse ++ [item]).idxOf b := by
      refine ih.imp_of_mem fun ha hb hlt => ?_
      rwa [hindex (List.mem_eraseDups.1 ha), hindex (List.mem_eraseDups.1 hb)]
    rw [List.reverse_cons, eraseDups_concat]
    split
    · exact hbefore
    · rename_i hnew
      refine List.pairwise_append.2 ⟨hbefore, by simp, fun a ha b hb => ?_⟩
      have ha' := List.mem_eraseDups.1 ha
      have hlt := List.idxOf_lt_length_of_mem ha'
      rw [List.mem_singleton.1 hb, hindex ha', List.idxOf_append, if_neg hnew]
      omega

end EventRouting.Occurrences
