import Mathlib.Data.List.DropRight
import Mathlib.Tactic

/-!
# Trimming a list on both sides

`trim p` removes what satisfies `p` at the front and at the back. What is left begins and ends with
something that does not (`first_trim`, `last_trim`), and a list that does so is left alone
(`trim_eq_self`). Cut off behind so many, what is left may end otherwise: `getElem?_trim` says what stands
at a position.
-/

namespace Trim

variable {α β : Type*} {p : α → Bool} {l : List α}

def trim (p : α → Bool) (l : List α) : List α := (l.dropWhile p).rdropWhile p

theorem trim_prefix (p : α → Bool) (l : List α) : trim p l <+: l.dropWhile p :=
  List.rdropWhile_prefix p _

theorem trim_map (f : β → α) (l : List β) :
    trim p (l.map f) = (trim (fun b ↦ p (f b)) l).map f := by
  have hdrop (l : List β) :
      (l.map f).dropWhile p = (l.dropWhile fun b ↦ p (f b)).map f := List.dropWhile_map ..
  rw [trim, trim, hdrop, List.rdropWhile, List.rdropWhile, ← List.map_reverse, hdrop,
    List.map_reverse]

theorem first_trim {a : α} (h : (trim p l).head? = some a) : p a = false := by
  obtain ⟨kept, hkept⟩ := List.head?_eq_some_iff.mp h
  obtain ⟨rest, hrest⟩ := trim_prefix p l
  have hfirst := List.head?_dropWhile_not p l
  rw [← hrest, hkept] at hfirst
  exact hfirst

theorem last_trim {a : α} (h : (trim p l).getLast? = some a) : p a = false := by
  have hne : trim p l ≠ [] := by
    intro hnil
    rw [hnil] at h
    cases h
  have hkept := List.rdropWhile_last_not p _ hne
  rw [List.getLast?_eq_some_getLast hne, Option.some.injEq] at h
  rw [← Bool.not_eq_true, ← h]
  exact hkept

/-- **What needs no trimming.** -/
theorem trim_eq_self (hfirst : ∀ a, l.head? = some a → p a = false)
    (hlast : ∀ a, l.getLast? = some a → p a = false) : trim p l = l := by
  have hdrop : l.dropWhile p = l := by
    cases l with
    | nil => rfl
    | cons a l => exact List.dropWhile_cons_of_neg (Bool.not_eq_true _ ▸ hfirst a rfl)
  rw [trim, hdrop, List.rdropWhile_eq_self_iff]
  intro hne
  rw [Bool.not_eq_true]
  exact hlast _ (List.getLast?_eq_some_getLast hne)

theorem lt_length_rdropWhile_iff {n : ℕ} :
    n < (l.rdropWhile p).length ↔ ∃ a ∈ l.drop n, p a = false := by
  induction l using List.reverseRecOn with
  | nil => simp
  | append_singleton l a ih =>
    rcases hp : p a with - | -
    · rw [List.rdropWhile_concat_neg _ _ _ (by rw [hp]; exact Bool.false_ne_true)]
      constructor
      · intro hn
        have hle : n ≤ l.length := by
          rw [List.length_append, List.length_singleton] at hn
          omega
        refine ⟨a, ?_, hp⟩
        rw [List.drop_append_of_le_length hle]
        exact List.mem_append_right _ (List.mem_singleton_self a)
      · rintro ⟨b, hmem, -⟩
        have hpos := List.length_pos_of_mem hmem
        rw [List.length_drop] at hpos
        omega
    · rw [List.rdropWhile_concat_pos _ _ _ hp, ih, List.drop_append]
      constructor
      · rintro ⟨b, hmem, hb⟩
        exact ⟨b, List.mem_append_left _ hmem, hb⟩
      · rintro ⟨b, hmem, hb⟩
        rcases List.mem_append.mp hmem with hmem | hmem
        · exact ⟨b, hmem, hb⟩
        · obtain rfl := List.mem_singleton.mp (List.mem_of_mem_drop hmem)
          exact absurd (hb.symm.trans hp) Bool.false_ne_true

/-- **What stands at a position** behind the first that is kept. It is kept if it stands in front of, or is,
another one that is kept. -/
theorem getElem?_trim {n : ℕ} {a : α} : (trim p l)[n]? = some a ↔
    (l.dropWhile p)[n]? = some a ∧ ∃ b ∈ (l.dropWhile p).drop n, p b = false := by
  obtain ⟨rest, hrest⟩ := trim_prefix p l
  have hsame (hn : n < (trim p l).length) : (trim p l)[n]? = (l.dropWhile p)[n]? := by
    rw [← hrest, List.getElem?_append_left hn]
  rw [← lt_length_rdropWhile_iff]
  constructor
  · intro h
    obtain ⟨hn, -⟩ := List.getElem?_eq_some_iff.mp h
    exact ⟨(hsame hn).symm.trans h, hn⟩
  · rintro ⟨h, hn⟩
    exact (hsame hn).trans h

end Trim
