import Mathlib.Algebra.BigOperators.Group.List.Lemmas
import Mathlib.Algebra.GroupWithZero.Nat

/-!
# Lists

The distinct elements of a list come in the order of their first places, and
counting each of them counts every element once.
-/

namespace TraitIndex

section

variable {α : Type} [BEq α] [LawfulBEq α]

/-- The elements of a list without repetition come in the order of their first
places. -/
theorem pairwise_eraseDups_idxOf (items : List α) :
    items.eraseDups.Pairwise fun a b => items.idxOf a < items.idxOf b := by
  induction items using List.reverseRecOn with
  | nil => exact .nil
  | append_singleton items last ih =>
      have hplace {item : α} (hitem : item ∈ items) :
          (items ++ [last]).idxOf item = items.idxOf item :=
            List.idxOf_append_of_mem hitem
      have hbefore : items.eraseDups.Pairwise fun a b =>
          (items ++ [last]).idxOf a < (items ++ [last]).idxOf b := by
        refine ih.imp_of_mem ?_
        intro a b ha hb hlt
        rwa [hplace (List.mem_eraseDups.mp ha),
          hplace (List.mem_eraseDups.mp hb)]
      rw [List.eraseDups_append]
      by_cases hlast : last ∈ items
      · simpa [List.removeAll, hlast] using hbefore
      · have hrest : ([last].removeAll items).eraseDups = [last] := by
          simp [List.removeAll, hlast, List.eraseDups_cons]
        rw [hrest, List.pairwise_append]
        refine ⟨hbefore, List.pairwise_singleton _ _, ?_⟩
        intro a ha b hb
        obtain rfl := List.mem_singleton.mp hb
        have ha := List.mem_eraseDups.mp ha
        rw [hplace ha, List.idxOf_append_of_notMem hlast]
        exact Nat.lt_add_right _ (List.idxOf_lt_length_of_mem ha)

theorem nodup_eraseDups (items : List α) : items.eraseDups.Nodup := by
  refine (pairwise_eraseDups_idxOf items).imp ?_
  rintro a b hlt rfl
  exact Nat.lt_irrefl _ hlt

end

/-- Every element counts once when the distinct ones are gone through. -/
theorem sum_count_eraseDups {α : Type} [DecidableEq α] (items : List α) :
    (items.eraseDups.map items.count).sum = items.length := by
  have hperm : items.eraseDups.Perm items.dedup := by
    rw [List.perm_ext_iff_of_nodup (nodup_eraseDups items)
      (List.nodup_dedup items)]
    simp
  rw [(hperm.map _).sum_nat]
  exact List.sum_map_count_dedup_eq_length items

theorem findIdx_congr {α : Type} {p q : α → Bool} {items : List α}
    (h : ∀ item ∈ items, p item = q item) :
    items.findIdx p = items.findIdx q := by
  induction items with
  | nil => rfl
  | cons item rest ih =>
      obtain ⟨hitem, hrest⟩ := List.forall_mem_cons.mp h
      rw [List.findIdx_cons, List.findIdx_cons, hitem, ih hrest]

end TraitIndex
