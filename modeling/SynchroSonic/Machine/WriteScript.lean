import Mathlib.Tactic

/-!
# Byte sinks, as scripts

The counterpart of `ReadScript`: a sink remembers what it has accepted and how its next calls will
go. `writeAll` never reaches the sink for empty data, and `writeParts` writes several pieces in
order and stops at the first that fails.

`writeParts_accepts` says what a sink has accepted afterwards: everything, or, after a failure, a part
from the front.
-/

/-- A sink: what it has accepted so far, and the outcomes of the calls to come. `none` accepts the
data, `some (k, error)` accepts `k` symbols of it and then fails; when the list is used up every
call succeeds. -/
structure WriteScript (α ε : Type*) where
  /-- Everything accepted so far. -/
  written : List α
  /-- The outcomes of the calls to come. -/
  faults : List (Option (ℕ × ε))

namespace WriteScript

variable {α ε : Type*}

/-- A sink that has accepted nothing and never fails. -/
def empty : WriteScript α ε := ⟨[], []⟩

/-- `write_all`: hand over all of `data`. Empty data makes no call. -/
def writeAll (data : List α) (writer : WriteScript α ε) : Except ε Unit × WriteScript α ε :=
  if data.isEmpty then (.ok (), writer)
  else
    match writer.faults with
    | [] => (.ok (), { writer with written := writer.written ++ data })
    | none :: faults => (.ok (), ⟨writer.written ++ data, faults⟩)
    | some (k, error) :: faults => (.error error, ⟨writer.written ++ data.take k, faults⟩)

/-- Write several pieces in order, up to the first failure. -/
def writeParts : List (List α) → WriteScript α ε → Except ε Unit × WriteScript α ε
  | [], writer => (.ok (), writer)
  | data :: parts, writer =>
    match writer.writeAll data with
    | (.ok (), writer) => writeParts parts writer
    | (.error error, writer) => (.error error, writer)

/-- None of the calls to come fails. -/
def Reliable (writer : WriteScript α ε) : Prop := ∀ fault ∈ writer.faults, fault = none

theorem reliable_empty : (empty : WriteScript α ε).Reliable := by simp [Reliable, empty]

theorem writeAll_of_reliable {writer : WriteScript α ε} (h : writer.Reliable) (data : List α) :
    ∃ writer', writer.writeAll data = (.ok (), writer') ∧
      writer'.written = writer.written ++ data ∧ writer'.Reliable := by
  rcases data with - | ⟨a, data⟩
  · exact ⟨writer, by simp [writeAll], by simp, h⟩
  · rcases hf : writer.faults with - | ⟨fault, faults⟩
    · exact ⟨{ writer with written := writer.written ++ a :: data },
        by simp [writeAll, hf], rfl, h⟩
    · have hnone : fault = none := h fault (by simp [hf])
      refine ⟨⟨writer.written ++ a :: data, faults⟩, by simp [writeAll, hf, hnone], rfl,
        fun fault hmem ↦ h fault ?_⟩
      exact hf ▸ List.mem_cons_of_mem _ hmem

/-- **A sink whose calls do not fail accepts all the pieces.** -/
theorem writeParts_of_reliable {writer : WriteScript α ε} (h : writer.Reliable)
    (parts : List (List α)) :
    ∃ writer', writer.writeParts parts = (.ok (), writer') ∧
      writer'.written = writer.written ++ parts.flatten ∧ writer'.Reliable := by
  induction parts generalizing writer with
  | nil => exact ⟨writer, rfl, by simp, h⟩
  | cons data parts ih =>
    obtain ⟨writer₁, hwrite, hwritten, hrel⟩ := writeAll_of_reliable h data
    obtain ⟨writer₂, hparts, hwritten₂, hrel₂⟩ := ih hrel
    refine ⟨writer₂, by rw [writeParts, hwrite]; exact hparts, ?_, hrel₂⟩
    rw [hwritten₂, hwritten, List.flatten_cons, List.append_assoc]

/-! ### What a sink accepts -/

theorem writeAll_accepts {writer writer' : WriteScript α ε} {data : List α} {result : Except ε Unit}
    (h : writer.writeAll data = (result, writer')) :
    ∃ accepted, writer'.written = writer.written ++ accepted ∧ accepted <+: data ∧
      (result = .ok () → accepted = data) := by
  unfold writeAll at h
  split at h
  next hempty =>
    obtain ⟨-, rfl⟩ := Prod.mk.inj h
    exact ⟨[], by simp, List.nil_prefix, fun _ ↦ (List.isEmpty_iff.1 hempty).symm⟩
  split at h
  · obtain ⟨-, rfl⟩ := Prod.mk.inj h
    exact ⟨data, rfl, List.prefix_rfl, fun _ ↦ rfl⟩
  · obtain ⟨-, rfl⟩ := Prod.mk.inj h
    exact ⟨data, rfl, List.prefix_rfl, fun _ ↦ rfl⟩
  next k error faults hfaults =>
    obtain ⟨rfl, rfl⟩ := Prod.mk.inj h
    exact ⟨data.take k, rfl, List.take_prefix k data, fun h ↦ nomatch h⟩

/-- **What a sink accepts** of several pieces is a part from the front, and everything if no call
failed. -/
theorem writeParts_accepts {writer writer' : WriteScript α ε} {parts : List (List α)}
    {result : Except ε Unit} (h : writer.writeParts parts = (result, writer')) :
    ∃ accepted, writer'.written = writer.written ++ accepted ∧ accepted <+: parts.flatten ∧
      (result = .ok () → accepted = parts.flatten) := by
  induction parts generalizing writer with
  | nil =>
    obtain ⟨-, rfl⟩ := Prod.mk.inj h
    exact ⟨[], by simp, List.nil_prefix, fun _ ↦ rfl⟩
  | cons data parts ih =>
    rw [writeParts] at h
    rw [List.flatten_cons]
    split at h
    next writer₁ hwrite =>
      obtain ⟨accepted, hwritten, -, hall⟩ := writeAll_accepts hwrite
      obtain rfl := hall rfl
      obtain ⟨accepted₂, hwritten₂, hprefix, hall₂⟩ := ih h
      refine ⟨accepted ++ accepted₂, by rw [hwritten₂, hwritten, List.append_assoc],
        (List.prefix_append_right_inj accepted).2 hprefix, fun hok ↦ by rw [hall₂ hok]⟩
    next error writer₁ hwrite =>
      obtain ⟨rfl, rfl⟩ := Prod.mk.inj h
      obtain ⟨accepted, hwritten, hprefix, -⟩ := writeAll_accepts hwrite
      exact ⟨accepted, hwritten, hprefix.trans (List.prefix_append data parts.flatten),
        fun h ↦ nomatch h⟩

end WriteScript
