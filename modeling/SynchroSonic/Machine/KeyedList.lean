import Mathlib.Data.List.Nodup
import Mathlib.Data.List.Perm.Basic

/-!
# Vectors that serve as maps

A vector of values with a key each: `put` overwrites the first value with the key or appends, `delete`
keeps the others, `get?` finds the first. Read as a map from keys to values, the vector behaves as one
(`get?_put`, `get?_delete`), and no key occurs twice if none did before. Then the order does not matter
either (`get?_perm`).
-/

namespace KeyedList

variable {α β κ : Type*} [DecidableEq κ] (key : α → κ)

/-- The first value with this key. -/
def get? (k : κ) (values : List α) : Option α := values.find? fun value ↦ key value = k

/-- Overwrite the first value with the same key, or append. -/
def put (value : α) : List α → List α
  | [] => [value]
  | first :: rest => if key first = key value then value :: rest else first :: put value rest

/-- Drop the values with this key. -/
def delete (k : κ) (values : List α) : List α := values.filter fun value ↦ key value ≠ k

variable {key} {k : κ} {value : α} {values : List α}

theorem get?_cons (first : α) (rest : List α) :
    get? key k (first :: rest) = if key first = k then some first else get? key k rest := by
  by_cases h : key first = k
  · simp [get?, h]
  · simp [get?, h]

theorem key_of_get? (h : get? key k values = some value) : key value = k := by
  have hkey : decide (key value = k) = true := List.find?_some (p := fun value ↦ key value = k) h
  exact of_decide_eq_true hkey

theorem get?_eq_none : get? key k values = none ↔ k ∉ values.map key := by
  simp only [get?, List.find?_eq_none, decide_eq_true_eq, List.mem_map, not_exists, not_and]

/-- **Reading after writing.** -/
theorem get?_put : get? key k (put key value values) =
    if key value = k then some value else get? key k values := by
  induction values with
  | nil => exact get?_cons value []
  | cons first rest ih =>
    by_cases hfirst : key first = key value
    · rw [put, if_pos hfirst, get?_cons, get?_cons, hfirst]
      split
      · rfl
      · rfl
    · rw [put, if_neg hfirst, get?_cons, get?_cons, ih]
      by_cases hvalue : key value = k
      · rw [if_neg (hvalue ▸ hfirst), if_pos hvalue, if_pos hvalue]
      · rw [if_neg hvalue, if_neg hvalue]

/-- **Reading after deleting.** -/
theorem get?_delete (j : κ) : get? key k (delete key j values) =
    if j = k then none else get? key k values := by
  induction values with
  | nil => exact (ite_self none).symm
  | cons first rest ih =>
    rw [delete, List.filter_cons]
    by_cases hfirst : key first = j
    · rw [if_neg (by simpa using hfirst)]
      refine ih.trans ?_
      rw [get?_cons, hfirst]
      split
      · rfl
      · rfl
    · rw [if_pos (by simpa using hfirst), get?_cons, get?_cons]
      refine (if_congr Iff.rfl rfl ih).trans ?_
      by_cases hj : j = k
      · rw [if_neg (hj ▸ hfirst), if_pos hj, if_pos hj]
      · rw [if_neg hj, if_neg hj]

theorem mem_keys_put : k ∈ (put key value values).map key ↔ k = key value ∨ k ∈ values.map key := by
  rw [← not_iff_not, not_or, ← get?_eq_none, ← get?_eq_none, get?_put]
  by_cases hkey : key value = k
  · simp [hkey]
  · simp [hkey, Ne.symm hkey]

theorem nodup_put (h : (values.map key).Nodup) : ((put key value values).map key).Nodup := by
  induction values with
  | nil => exact List.nodup_singleton _
  | cons first rest ih =>
    obtain ⟨hfresh, hrest⟩ := List.nodup_cons.1 h
    by_cases hfirst : key first = key value
    · rw [put, if_pos hfirst, List.map_cons, ← hfirst]
      exact h
    · rw [put, if_neg hfirst, List.map_cons, List.nodup_cons, mem_keys_put]
      exact ⟨not_or.2 ⟨hfirst, hfresh⟩, ih hrest⟩

theorem nodup_delete (h : (values.map key).Nodup) : ((delete key k values).map key).Nodup :=
  (List.filter_sublist.map key).nodup h

/-- A map that keeps the keys commutes with `put`. -/
theorem map_put {key' : β → κ} {f : α → β} (hf : ∀ value, key' (f value) = key value) :
    (put key value values).map f = put key' (f value) (values.map f) := by
  induction values with
  | nil => rfl
  | cons first rest ih =>
    by_cases hfirst : key first = key value
    · rw [put, if_pos hfirst, List.map_cons, List.map_cons, put, hf, hf, if_pos hfirst]
    · rw [put, if_neg hfirst, List.map_cons, List.map_cons, put, hf, hf, if_neg hfirst, ih]

theorem map_delete {key' : β → κ} {f : α → β} (hf : ∀ value, key' (f value) = key value) :
    (delete key k values).map f = delete key' k (values.map f) := by
  rw [delete, delete, List.filter_map]
  refine congrArg (List.map f) (List.filter_congr fun value _ ↦ ?_)
  exact congrArg (fun key ↦ decide (key ≠ k)) (hf value).symm

theorem get?_of_mem (hnodup : (values.map key).Nodup) (h : value ∈ values) :
    get? key (key value) values = some value := by
  induction values with
  | nil => cases h
  | cons first rest ih =>
    obtain ⟨hfresh, hrest⟩ := List.nodup_cons.1 hnodup
    rcases List.mem_cons.1 h with rfl | hmem
    · rw [get?_cons, if_pos rfl]
    · have hne : key first ≠ key value := fun heq ↦
        hfresh (heq ▸ List.mem_map_of_mem hmem)
      rw [get?_cons, if_neg hne, ih hrest hmem]

/-- Where no key occurs twice, the order does not matter. -/
theorem get?_perm {others : List α} (h : values.Perm others) (hnodup : (values.map key).Nodup) :
    get? key k values = get? key k others := by
  rcases hfound : get? key k values with - | value
  · exact (get?_eq_none.2 fun hmem ↦ get?_eq_none.1 hfound ((h.map key).mem_iff.2 hmem)).symm
  · have hothers := get?_of_mem ((h.map key).nodup_iff.1 hnodup)
      (h.mem_iff.1 (List.mem_of_find?_eq_some hfound))
    rw [key_of_get? hfound] at hothers
    exact hothers.symm

/-! ### Walks through a map -/

variable {f : κ → Option α} (hkey : ∀ (k : κ) (value : α), f k = some value → key value = k)

include hkey

omit [DecidableEq κ] in
/-- The values a walk meets have the keys of the walk. -/
theorem keys_filterMap (order : List κ) : ((order.filterMap f).map key).Sublist order := by
  induction order with
  | nil => exact List.Sublist.slnil
  | cons first order ih =>
    rcases hvalue : f first with - | value
    · rw [List.filterMap_cons_none hvalue]
      exact ih.cons first
    · rw [List.filterMap_cons_some hvalue, List.map_cons, hkey first value hvalue]
      exact ih.cons_cons first

/-- **A walk that meets a key finds what the map has there.** -/
theorem get?_filterMap {order : List κ} (hwalk : f k ≠ none → k ∈ order) :
    get? key k (order.filterMap f) = f k := by
  induction order with
  | nil =>
    have hnone : f k = none := by
      by_contra hsome
      exact absurd (hwalk hsome) List.not_mem_nil
    exact hnone.symm
  | cons first order ih =>
    rcases hvalue : f first with - | value
    · rw [List.filterMap_cons_none hvalue]
      refine ih fun hsome ↦ ?_
      rcases List.mem_cons.1 (hwalk hsome) with rfl | hmem
      · exact absurd hvalue hsome
      · exact hmem
    · rw [List.filterMap_cons_some hvalue, get?_cons, hkey first value hvalue]
      by_cases hfirst : first = k
      · rw [if_pos hfirst, ← hfirst, hvalue]
      · rw [if_neg hfirst]
        refine ih fun hsome ↦ ?_
        exact (List.mem_cons.1 (hwalk hsome)).resolve_left (Ne.symm hfirst)

end KeyedList
