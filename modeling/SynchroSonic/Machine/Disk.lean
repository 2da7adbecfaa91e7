import Mathlib.Tactic

/-!
# Files and crashes

A disk is what its files contain. What a program does to it is a list of primitive operations, and a crash
leaves what a prefix of the list has done.

`writeOps` truncates a file and then writes its bytes in order. A crash leaves the file as it was or a
prefix of the new content (`perform_take_writeOps`).
-/

/-- The contents of the files, by path. -/
abbrev Disk (Path : Type*) := Path → Option (List UInt8)

namespace Disk

variable {Path : Type*} [DecidableEq Path]

/-- What is done to a disk in one piece. -/
inductive Op (Path : Type*)
  /-- Make the file, or make it empty. -/
  | truncate (path : Path)
  | append (path : Path) (byte : UInt8)
  | rename (source target : Path)
  | remove (path : Path)

def Op.apply : Op Path → Disk Path → Disk Path
  | .truncate path, disk => Function.update disk path (some [])
  | .append path byte, disk => Function.update disk path (some ((disk path).getD [] ++ [byte]))
  | .rename source target, disk =>
    Function.update (Function.update disk target (disk source)) source none
  | .remove path, disk => Function.update disk path none

/-- Do these operations, in order. -/
def perform (ops : List (Op Path)) (disk : Disk Path) : Disk Path :=
  ops.foldl (fun disk op ↦ op.apply disk) disk

theorem perform_append (ops more : List (Op Path)) (disk : Disk Path) :
    perform (ops ++ more) disk = perform more (perform ops disk) := List.foldl_append

/-- `fs::write`. -/
def writeOps (path : Path) (bytes : List UInt8) : List (Op Path) :=
  .truncate path :: bytes.map (.append path)

/-- Write to a temporary file, and rename it. -/
def writeAtomicOps (temporary path : Path) (bytes : List UInt8) : List (Op Path) :=
  writeOps temporary bytes ++ [.rename temporary path]

theorem perform_appends (path : Path) (bytes start : List UInt8) (disk : Disk Path)
    (hstart : disk path = some start) :
    perform (bytes.map (.append path)) disk = Function.update disk path (some (start ++ bytes)) := by
  induction bytes generalizing start disk with
  | nil =>
    rw [List.append_nil, ← hstart, Function.update_eq_self]
    rfl
  | cons byte bytes ih =>
    show perform (bytes.map (.append path))
      (Function.update disk path (some ((disk path).getD [] ++ [byte]))) = _
    rw [hstart, Option.getD_some, ih (start ++ [byte]) _ (Function.update_self _ _ _),
      Function.update_idem, List.append_assoc, List.singleton_append]

/-- **What a crash within `fs::write` leaves**: the disk as it was, or a prefix of the new content. -/
theorem perform_take_writeOps (path : Path) (bytes : List UInt8) (disk : Disk Path) (done : ℕ) :
    perform ((writeOps path bytes).take (done + 1)) disk =
      Function.update disk path (some (bytes.take done)) := by
  rw [writeOps, List.take_succ_cons, ← List.map_take]
  show perform ((bytes.take done).map (.append path)) (Function.update disk path (some [])) = _
  rw [perform_appends path _ [] _ (Function.update_self _ _ _), Function.update_idem, List.nil_append]

theorem perform_writeOps (path : Path) (bytes : List UInt8) (disk : Disk Path) :
    perform (writeOps path bytes) disk = Function.update disk path (some bytes) := by
  have hall := perform_take_writeOps path bytes disk bytes.length
  rwa [List.take_of_length_le (by simp [writeOps]), List.take_length] at hall

/-- **`writeAtomicOps` changes the file in one piece.** -/
theorem perform_writeAtomicOps {temporary path : Path} (hne : temporary ≠ path) (bytes : List UInt8)
    (disk : Disk Path) :
    perform (writeAtomicOps temporary path bytes) disk =
      Function.update (Function.update disk path (some bytes)) temporary none := by
  rw [writeAtomicOps, perform_append, perform_writeOps]
  show Function.update (Function.update (Function.update disk temporary (some bytes)) path
    (Function.update disk temporary (some bytes) temporary)) temporary none = _
  rw [Function.update_self, Function.update_comm hne, Function.update_idem]

/-! ### What stays on a disk -/

/-- None of these files is lost or changed. -/
def Keeps (files : Set Path) (before after : Disk Path) : Prop :=
  ∀ file ∈ files, ∀ bytes, before file = some bytes → after file = some bytes

omit [DecidableEq Path] in
theorem Keeps.refl (files : Set Path) (disk : Disk Path) : Keeps files disk disk :=
  fun _ _ _ h ↦ h

omit [DecidableEq Path] in
theorem Keeps.trans {files : Set Path} {first second third : Disk Path} (h : Keeps files first second)
    (h' : Keeps files second third) : Keeps files first third :=
  fun file hfile bytes hbytes ↦ h' file hfile bytes (h file hfile bytes hbytes)

omit [DecidableEq Path] in
/-- Whoever leaves the files alone keeps them. -/
theorem keeps_of_eq {files : Set Path} {before after : Disk Path}
    (h : ∀ file ∈ files, after file = before file) : Keeps files before after :=
  fun file hfile _ hbytes ↦ (h file hfile).trans hbytes

end Disk
