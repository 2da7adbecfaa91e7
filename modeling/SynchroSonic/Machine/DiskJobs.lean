import SynchroSonic.Machine.Disk

/-!
# Changes that a crash does not tear

A job changes one file in one piece: it writes the file by way of a temporary one, or removes it. It is
carried out by primitive operations, and a machine may stop in front of each of them. Whoever looks only
at the files that are not temporary sees nothing of a job until its last operation, and then all of it.

* `Alike` — two disks that differ in temporary files only;
* `Op.seen` — the job that an operation looks like;
* `Midway` — these operations are what is left of these jobs;
* `Midway.step` — an operation is not seen at all, or it is seen as the job in front.
-/

namespace Disk

variable {Path : Type*}

/-- A change of one file. -/
inductive Job (Path : Type*)
  /-- Write the file by way of a temporary one. -/
  | write (path : Path) (bytes : List UInt8)
  | remove (path : Path)
  deriving DecidableEq, Repr

variable (temporary : Path → Path)

def Job.ops : Job Path → List (Op Path)
  | .write path bytes => writeAtomicOps (temporary path) path bytes
  | .remove path => [.remove path]

/-- Two disks that differ in temporary files only. -/
def Alike (disk disk' : Disk Path) : Prop :=
  ∀ path, path ∉ Set.range temporary → disk path = disk' path

/-- These operations are what is left of these jobs: of the first job perhaps only the rest, once the
temporary file has a part of the new content. -/
def Midway (disk : Disk Path) (jobs : List (Job Path)) (ops : List (Op Path)) : Prop :=
  ops = jobs.flatMap (Job.ops temporary) ∨
    ∃ path written rest more, disk (temporary path) = some written ∧
      jobs = .write path (written ++ rest) :: more ∧
      ops = rest.map (.append (temporary path)) ++
        .rename (temporary path) path :: more.flatMap (Job.ops temporary)

variable {temporary} {disk disk' : Disk Path} {jobs : List (Job Path)} {op : Op Path}
  {ops : List (Op Path)}

theorem midway_flatMap (disk : Disk Path) (jobs : List (Job Path)) :
    Midway temporary disk jobs (jobs.flatMap (Job.ops temporary)) :=
  Or.inl rfl

theorem Job.ops_ne_nil (temporary : Path → Path) (job : Job Path) : job.ops temporary ≠ [] := by
  cases job with
  | write path bytes => exact List.cons_ne_nil _ _
  | remove path => exact List.cons_ne_nil _ _

/-- Nothing is left of no job only. -/
theorem Midway.eq_nil (h : Midway temporary disk jobs []) : jobs = [] := by
  rcases h with h | ⟨path, written, rest, more, -, -, h⟩
  · refine List.eq_nil_iff_forall_not_mem.2 fun job hjob ↦ Job.ops_ne_nil temporary job ?_
    exact List.flatMap_eq_nil_iff.1 h.symm job hjob
  · exact absurd h.symm (List.append_ne_nil_of_right_ne_nil _ (List.cons_ne_nil _ _))

/-- Other files may change meanwhile. -/
theorem Midway.congr (htemporary : ∀ path, disk' (temporary path) = disk (temporary path))
    (h : Midway temporary disk jobs ops) : Midway temporary disk' jobs ops := by
  rcases h with h | ⟨path, written, rest, more, hwritten, h⟩
  · exact Or.inl h
  · exact Or.inr ⟨path, written, rest, more, (htemporary path).trans hwritten, h⟩

theorem Alike.refl (disk : Disk Path) : Alike temporary disk disk := fun _ _ ↦ rfl

variable [DecidableEq Path]

/-- What a job does to the files that are not temporary. -/
def Job.apply : Job Path → Disk Path → Disk Path
  | .write path bytes, disk => Function.update disk path (some bytes)
  | .remove path, disk => Function.update disk path none

@[simp] theorem Job.apply_write_self (path : Path) (bytes : List UInt8) (disk : Disk Path) :
    (Job.write path bytes).apply disk path = some bytes := Function.update_self _ _ _

@[simp] theorem Job.apply_remove_self (path : Path) (disk : Disk Path) :
    (Job.remove path).apply disk path = none := Function.update_self _ _ _

theorem Job.apply_write_of_ne {path other : Path} (hother : other ≠ path) (bytes : List UInt8)
    (disk : Disk Path) : (Job.write path bytes).apply disk other = disk other :=
  Function.update_of_ne hother _ _

theorem Job.apply_remove_of_ne {path other : Path} (hother : other ≠ path) (disk : Disk Path) :
    (Job.remove path).apply disk other = disk other := Function.update_of_ne hother _ _

theorem Op.apply_append_of_ne {path other : Path} (hother : other ≠ path) (byte : UInt8)
    (disk : Disk Path) : (Op.append path byte).apply disk other = disk other :=
  Function.update_of_ne hother _ _

/-- The job that an operation looks like, if it is seen. -/
def Op.seen (disk : Disk Path) : Op Path → Option (Job Path)
  | .truncate _ | .append _ _ => none
  | .rename source target => (disk source).map (.write target)
  | .remove path => some (.remove path)

theorem alike_update (path : Path) (content : Option (List UInt8)) (disk : Disk Path) :
    Alike temporary (Function.update disk (temporary path) content) disk := fun _ hother ↦
  Function.update_of_ne (fun h ↦ hother ⟨path, h.symm⟩) _ _

/-- **The step rule.** An operation is not seen, or it is seen as the job in front, and this is done. -/
theorem Midway.step (h : Midway temporary disk jobs (op :: ops)) :
    (op.seen disk = none ∧ Midway temporary (op.apply disk) jobs ops ∧
      Alike temporary (op.apply disk) disk) ∨
    ∃ job more, jobs = job :: more ∧ op.seen disk = some job ∧
      Midway temporary (op.apply disk) more ops ∧
      Alike temporary (op.apply disk) (job.apply disk) := by
  rcases h with h | ⟨path, written, rest, more, hwritten, hjobs, h⟩
  · rcases jobs with - | ⟨job, more⟩
    · cases h
    cases job with
    | write path bytes =>
      obtain ⟨rfl, rfl⟩ := List.cons.inj h
      refine Or.inl ⟨rfl, Or.inr ⟨path, [], bytes, more, ?_, rfl, ?_⟩, alike_update path (some []) disk⟩
      · exact Function.update_self _ _ _
      · exact List.append_assoc _ _ _
    | remove path =>
      obtain ⟨rfl, rfl⟩ := List.cons.inj h
      exact Or.inr ⟨.remove path, more, rfl, rfl, midway_flatMap _ _, Alike.refl _⟩
  · rcases rest with - | ⟨byte, rest⟩
    · obtain ⟨rfl, rfl⟩ := List.cons.inj h
      refine Or.inr ⟨.write path written, more, ?_, ?_, midway_flatMap _ _, ?_⟩
      · rw [hjobs, List.append_nil]
      · rw [Op.seen, hwritten, Option.map_some]
      · show Alike temporary
          (Function.update (Function.update disk path (disk (temporary path))) (temporary path) none) _
        rw [hwritten]
        exact alike_update path none _
    · obtain ⟨rfl, rfl⟩ := List.cons.inj h
      refine Or.inl ⟨rfl, Or.inr ⟨path, written ++ [byte], rest, more, ?_, ?_, rfl⟩, ?_⟩
      · show Function.update disk (temporary path) _ (temporary path) = _
        rw [Function.update_self, hwritten, Option.getD_some]
      · rw [hjobs, List.append_assoc, List.singleton_append]
      · exact alike_update path _ disk

end Disk
