import Mathlib.Data.List.Perm.Basic

/-!
# Sorting and the order of the input

A stable sort keeps the input order of values that compare equal. So what it makes of a list of
different values depends on nothing but which values there are exactly if no two of them compare equal
(`mergeSort_unordered_iff`).
-/

namespace StableSort

variable {α : Type*} {le : α → α → Bool} {values : List α}

/-- Two values stand in one order only. -/
theorem eq_of_pairs_sublist {left right : α} (hnodup : values.Nodup)
    (hleft : [left, right].Sublist values) (hright : [right, left].Sublist values) : left = right := by
  induction values with
  | nil => exact absurd (hleft.subset List.mem_cons_self) List.not_mem_nil
  | cons first rest ih =>
    obtain ⟨hfresh, hrest⟩ := List.nodup_cons.1 hnodup
    rcases List.sublist_cons_iff.1 hleft with hleft' | ⟨more, hmore, -⟩
    · rcases List.sublist_cons_iff.1 hright with hright' | ⟨more', hmore', -⟩
      · exact ih hrest hleft' hright'
      · have hmem := hleft'.subset (List.mem_cons_of_mem _ List.mem_cons_self)
        exact absurd ((List.cons.inj hmore').1 ▸ hmem) hfresh
    · rcases List.sublist_cons_iff.1 hright with hright' | ⟨more', hmore', -⟩
      · have hmem := hright'.subset (List.mem_cons_of_mem _ List.mem_cons_self)
        exact absurd ((List.cons.inj hmore).1 ▸ hmem) hfresh
      · exact (List.cons.inj hmore).1.trans (List.cons.inj hmore').1.symm

variable (htrans : ∀ a b c, le a b → le b c → le a c) (htotal : ∀ a b, le a b || le b a)

include htrans htotal

/-- Where no two values compare equal, the order of the input does not matter. -/
theorem mergeSort_eq_of_perm {others : List α}
    (hanti : ∀ a ∈ values, ∀ b ∈ values, le a b → le b a → a = b) (h : values.Perm others) :
    values.mergeSort le = others.mergeSort le := by
  refine List.Perm.eq_of_pairwise (fun a b ha hb ↦ ?_) (List.pairwise_mergeSort htrans htotal values)
    (List.pairwise_mergeSort htrans htotal others)
    ((List.mergeSort_perm values le).trans (h.trans (List.mergeSort_perm others le).symm))
  exact hanti a (List.mem_mergeSort.1 ha) b (h.mem_iff.2 (List.mem_mergeSort.1 hb))

/-- Two values that compare equal come out as they went in. -/
theorem mergeSort_swap_ne {left right : α} (hne : left ≠ right) (hleft : le left right)
    (hright : le right left) (hnodup : (left :: right :: values).Nodup) :
    (left :: right :: values).mergeSort le ≠ (right :: left :: values).mergeSort le := by
  intro heq
  have hpair (first second : α) : [first, second].Sublist (first :: second :: values) :=
    List.prefix_append [first, second] values |>.sublist
  have hsorted : ((left :: right :: values).mergeSort le).Nodup :=
    (List.mergeSort_perm _ le).nodup_iff.2 hnodup
  refine hne (eq_of_pairs_sublist hsorted ?_ ?_)
  · exact List.pair_sublist_mergeSort htrans htotal hleft (hpair left right)
  · rw [heq]
    exact List.pair_sublist_mergeSort htrans htotal hright (hpair right left)

/-- **A stable sort forgets the order of the input** exactly if no two values compare equal. -/
theorem mergeSort_unordered_iff (hnodup : values.Nodup) :
    (∀ others others' : List α, others.Perm values → others'.Perm values →
        others.mergeSort le = others'.mergeSort le) ↔
      ∀ a ∈ values, ∀ b ∈ values, le a b → le b a → a = b := by
  classical
  constructor
  · intro hall a ha b hb hab hba
    by_contra hne
    -- bring the two to the front, in either order
    have hfront : values.Perm (a :: b :: (values.erase a).erase b) :=
      (List.perm_cons_erase ha).trans
        ((List.perm_cons_erase ((List.mem_erase_of_ne (Ne.symm hne)).2 hb)).cons a)
    refine mergeSort_swap_ne htrans htotal hne hab hba (hfront.nodup_iff.1 hnodup) ?_
    exact hall _ _ hfront.symm ((List.Perm.swap a b _).trans hfront.symm)
  · intro hanti others others' hperm hperm'
    refine mergeSort_eq_of_perm htrans htotal (fun a ha b hb ↦ ?_) (hperm.trans hperm'.symm)
    exact hanti a (hperm.mem_iff.1 ha) b (hperm.mem_iff.1 hb)

end StableSort
