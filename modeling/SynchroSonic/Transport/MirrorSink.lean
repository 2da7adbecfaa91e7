import SynchroSonic.Transport.MirrorWorker

/-!
# The mirror's sink and the end of the cast

When the manager stops the capture it decides from its own picture of the mirror whether a `Stop` is
needed. The picture is made of reports, so it may be older than the controls on their way: a late
`Disabled` hides a `Start` that the thread has still to carry out.

`Told` and `Dormant` are the two ways in which the mirror is safe to be left alone. An idle manager that
sends no `Stop` needs one of them, and this is all that the sink's end depends on.
-/

namespace SynchroSonic

def LocalMirrorControl.isStart : LocalMirrorControl → Bool
  | .start _ => true
  | _ => false

namespace MirroredSender

/-- The last control sent is no `Start`. -/
def Told (mirrored : MirroredSender) : Prop :=
  ∀ request, mirrored.controls.getLast? ≠ some (.start request)

/-- The thread has ended, or it is not enabled, starts nothing and has nothing left to do. -/
def Dormant (mirrored : MirroredSender) : Prop :=
  mirrored.worker.phase = .ended ∨
    (mirrored.worker.enabled = false ∧ mirrored.worker.isStarting = false ∧ mirrored.pending = [])

/-- It is decided by the last control. -/
theorem told_iff (mirrored : MirroredSender) :
    mirrored.Told ↔ mirrored.controls.getLast?.any LocalMirrorControl.isStart = false := by
  unfold Told
  rcases mirrored.controls.getLast? with - | control
  · simp
  · cases control with
    | start request => simp [LocalMirrorControl.isStart]
    | _ => simp [LocalMirrorControl.isStart]

instance (mirrored : MirroredSender) : Decidable mirrored.Told :=
  decidable_of_iff _ mirrored.told_iff.symm

instance (mirrored : MirroredSender) : Decidable mirrored.Dormant :=
  inferInstanceAs (Decidable (_ ∨ _))

/-- An idle manager sends a `Stop`, or the mirror is safe without one. -/
def LeavesSafe (mirrored : MirroredSender) : MirroredInput → Prop
  | .manager (.idle _) _ _ =>
    mirrored.system.manager.targets.hasActiveTargets = false →
      mirrored.system.manager.targets.hasPendingTargets = false →
        mirrored.system.manager.sharedSnapshot.localMirror.state ∈
            [LocalMirrorState.starting, .mirroring, .stopping] ∨
          mirrored.Told ∨ mirrored.Dormant
  | _ => True

instance decidableLeavesSafe (mirrored : MirroredSender) :
    (input : MirroredInput) → Decidable (mirrored.LeavesSafe input)
  | .manager (.idle _) _ _ => inferInstanceAs (Decidable (_ → _ → _ ∨ _ ∨ _))
  | .manager (.command _ _) _ _ | .manager .noCommand _ _ | .manager (.pendingTargets _) _ _
  | .manager (.connectResult _) _ _ | .manager .noConnectResult _ _ | .manager (.mirrorEvents _) _ _
  | .manager (.tick _) _ _ | .manager (.capture _) _ _ | .manager (.refresh _) _ _
  | .manager (.shutdownAll _) _ _ | .manager (.connected _ _) _ _ | .worker _ => isTrue trivial

/-- When the cast is over and nothing is on its way, the thread holds no sink. -/
def SinkClosed (mirrored : MirroredSender) : Prop :=
  mirrored.system.manager.capture = none →
    mirrored.system.manager.targets.hasActiveTargets = false →
      mirrored.system.manager.targets.hasPendingTargets = false →
        mirrored.pending = [] → mirrored.events = [] → mirrored.settled = true →
          mirrored.worker.enabled = false ∧ mirrored.worker.sink = false

/-- What holds of the thread and its channels. -/
structure Kept (mirrored : MirroredSender) : Prop where
  taken : mirrored.taken ≤ mirrored.controls.length
  /-- A thread that is enabled or starts the mirror has taken a `Start` last. -/
  ordered : mirrored.worker.enabled = true ∨ mirrored.worker.isStarting = true →
    ∃ request, (mirrored.controls.take mirrored.taken).getLast? = some (.start request)
  sink : mirrored.worker.sink = true → mirrored.worker.enabled = true ∧
    mirrored.worker.isStarting = false
  disabled : mirrored.worker.phase = .waiting ∨ mirrored.worker.phase = .ended →
    mirrored.worker.enabled = false
  /-- Without a capture the mirror is safe to be left alone. -/
  idle : mirrored.system.manager.capture = none → mirrored.Told ∨ mirrored.Dormant

end MirroredSender

/-! ### What the manager sends -/

namespace SenderManager

/-- At most one control is sent, and a `Start` only with a capture. -/
def Sends (manager next : SenderManager) : Prop :=
  next.localMirrorBranch.controls = manager.localMirrorBranch.controls ∨
    ∃ control, next.localMirrorBranch.controls = manager.localMirrorBranch.controls ++ [control] ∧
      (next.capture = none → ∀ request, control ≠ .start request)

variable {manager next : SenderManager} {env : ManagerEnv}

/-- What is sent is seen in the shared part. -/
theorem Sends.of_shared {after : SenderManager} (h : Sends manager after)
    (hshared : next.shared = after.shared) : Sends manager next := by
  have hcontrols : next.localMirrorBranch.controls = after.localMirrorBranch.controls :=
    congrArg (fun shared : SharedState ↦ shared.localMirrorBranch.controls) hshared
  have hcapture : next.capture = after.capture := congrArg SharedState.capture hshared
  rw [Sends, hcontrols, hcapture]
  exact h

/-- A control that does not start the mirror may be sent at any time. -/
theorem sends_controlMirror (control : LocalMirrorControl)
    (hstart : manager.capture = none → ∀ request, control ≠ .start request) :
    Sends manager (manager.controlMirror env control) := by
  obtain ⟨hcapture, -⟩ := capture_controlMirror env control manager
  rw [Sends, hcapture]
  unfold controlMirror LocalMirrorBranch.send
  split
  next heq =>
    split at heq
    · obtain ⟨-, rfl⟩ := Prod.mk.inj heq
      exact Or.inr ⟨control, rfl, hstart⟩
    · cases heq
  next error branch heq =>
    split at heq
    · cases heq
    · obtain ⟨-, rfl⟩ := Prod.mk.inj heq
      exact Or.inl rfl

/-- The mirror is started only for a capture that runs, and stopped at any time. -/
theorem sends_setLocalMirrorEnabled (enabled : Bool) :
    Sends manager (manager.setLocalMirrorEnabled env enabled) := by
  unfold setLocalMirrorEnabled
  dsimp only
  split
  · exact Or.inl rfl
  next hsome =>
    have hrunning : manager.capture ≠ none := fun hnone ↦ hsome (hnone ▸ rfl)
    split
    · exact @sends_controlMirror (manager.setLocalMirror _) _ _ fun hnone ↦ absurd hnone hrunning
    · exact @sends_controlMirror (manager.setLocalMirror _) _ _ fun hnone ↦ absurd hnone hrunning

/-- A change of the target starts the mirror anew for a running capture. -/
theorem sends_setLocalMirrorTarget (targetId : Option String) :
    Sends manager (manager.setLocalMirrorTarget env targetId) := by
  unfold setLocalMirrorTarget
  dsimp only
  split
  next hrunning =>
    exact @sends_controlMirror (SenderManager.setLocalMirror _ { manager with
      localMirrorRequest := { manager.localMirrorRequest with targetId } }) _ _ fun hnone ↦ by
        have hnone : manager.capture = none := hnone
        rw [hnone] at hrunning
        exact absurd hrunning.1 Bool.false_ne_true
  · exact Or.inl rfl

/-- The mirror is started with the capture. -/
theorem sends_ensureCaptureRunning : Sends manager (manager.ensureCaptureRunning env).2 := by
  unfold ensureCaptureRunning LocalMirrorBranch.send
  split
  · exact Or.inl rfl
  split
  · exact Or.inl rfl
  dsimp only
  split
  · split
    · exact Or.inr ⟨_, rfl, fun hnone ↦ by cases hnone⟩
    · exact Or.inl rfl
  · exact Or.inl rfl

/-- A frame is not a control. -/
theorem sends_pushToMirror (frame : FanoutAudioFrame) :
    Sends manager (manager.pushToMirror env frame) := by
  unfold pushToMirror
  dsimp only
  split <;> exact Or.inl rfl

/-- The mirror is stopped with the capture. -/
theorem sends_stopCaptureIfIdle : Sends manager (manager.stopCaptureIfIdle env) := by
  unfold stopCaptureIfIdle LocalMirrorBranch.send
  split
  · exact Or.inl rfl
  dsimp only
  split
  · split
    · exact Or.inr ⟨.stop, rfl, by simp⟩
    · exact Or.inl rfl
  · exact Or.inl rfl

/-- The last control of all is the shutdown. -/
theorem controls_shutdownAll (env : ManagerEnv) (manager : SenderManager) :
    (manager.shutdownAll env).localMirrorBranch.controls =
      manager.localMirrorBranch.controls ++ [.shutdown] := by
  have hshared := shared_foldl_stopTarget (manager.targets.activeIds env.order)
    { manager with capture := none }
  exact congrArg (fun shared : SharedState ↦ shared.localMirrorBranch.controls ++
    [LocalMirrorControl.shutdown]) hshared

/-- An idle manager that takes the mirror for running stops it. -/
theorem controls_stopCaptureIfIdle (hlistens : env.mirrorListens = true)
    (hactive : manager.targets.hasActiveTargets = false)
    (hpending : manager.targets.hasPendingTargets = false)
    (hstate : manager.sharedSnapshot.localMirror.state ∈
      [LocalMirrorState.starting, .mirroring, .stopping]) :
    (manager.stopCaptureIfIdle env).localMirrorBranch.controls =
      manager.localMirrorBranch.controls ++ [.stop] := by
  have hstate : manager.sharedSnapshot.localMirror.state = .starting ∨
      manager.sharedSnapshot.localMirror.state = .mirroring ∨
      manager.sharedSnapshot.localMirror.state = .stopping := by simpa using hstate
  unfold stopCaptureIfIdle LocalMirrorBranch.send
  simp only [hactive, hpending, Bool.or_self, Bool.false_eq_true, if_false, hstate, if_true, hlistens]

end SenderManager

/-- **A step of the manager sends one control at most**, and a `Start` with a capture only. -/
theorem step_sends {secsF64 : SecsF64} {format : WireFormat} {system next : SenderSystem}
    {input : SenderInput} (h : system.step secsF64 format input = some next) :
    SenderManager.Sends system.manager next.manager := by
  have hshared := step_shared h
  have hsame (hshared : next.manager.shared = system.manager.shared) :
      SenderManager.Sends system.manager next.manager :=
    SenderManager.Sends.of_shared (Or.inl rfl) hshared
  -- most steps send nothing, since they leave what the mirror shares alone
  cases input with
  | command env command =>
    cases command with
    | setLocalMirrorEnabled enabled =>
      exact (SenderManager.sends_setLocalMirrorEnabled enabled).of_shared hshared
    | setLocalMirrorTarget targetId =>
      exact (SenderManager.sends_setLocalMirrorTarget targetId).of_shared hshared
    | _ => exact hsame hshared
  | connectResult env =>
    simp only [SenderSystem.sharedAfter] at hshared
    split at hshared
    · exact SenderManager.sends_ensureCaptureRunning.of_shared hshared
    · exact hsame hshared
  | mirrorEvents env =>
    have hsends : SenderManager.Sends system.manager (system.manager.processLocalMirrorEvents env) :=
      Or.inl rfl
    exact hsends.of_shared hshared
  | capture env =>
    simp only [SenderSystem.sharedAfter] at hshared
    rcases hframe : system.manager.capturedFrame env with - | frame
    · rw [hframe] at hshared
      exact hsame hshared
    · rw [hframe] at hshared
      exact (SenderManager.sends_pushToMirror frame).of_shared hshared
  | idle env => exact SenderManager.sends_stopCaptureIfIdle.of_shared hshared
  | refresh env =>
    have hsends : SenderManager.Sends system.manager (system.manager.refreshSnapshot env) :=
      Or.inl rfl
    exact hsends.of_shared hshared
  | shutdownAll env =>
    refine SenderManager.Sends.of_shared (Or.inr ⟨.shutdown, ?_, by simp⟩) hshared
    exact SenderManager.controls_shutdownAll env system.manager
  | _ => exact hsame hshared

/-! ### Steps of the manager -/

namespace MirroredSender

variable {secsF64 : SecsF64} {format : WireFormat} {mirrored next : MirroredSender}

/-- Behind another control the mirror is told. -/
theorem told_append {control : LocalMirrorControl} {controls : List LocalMirrorControl}
    (hcontrol : ∀ request, control ≠ .start request)
    (hcontrols : mirrored.controls = controls ++ [control]) : mirrored.Told := by
  intro request hlast
  rw [hcontrols, List.getLast?_concat] at hlast
  exact hcontrol request (Option.some.inj hlast)

/-- The mirror stays safe as long as no `Start` is sent. -/
theorem safe_of_sends {control : LocalMirrorControl}
    (h : mirrored.Told ∨ mirrored.Dormant) (hworker : next.worker = mirrored.worker)
    (htaken : next.taken = mirrored.taken)
    (hcontrols : next.controls = mirrored.controls ∨
      (next.controls = mirrored.controls ++ [control] ∧ ∀ request, control ≠ .start request)) :
    next.Told ∨ next.Dormant := by
  rcases hcontrols with hcontrols | ⟨hcontrols, hcontrol⟩
  · have hpending : next.pending = mirrored.pending := by rw [pending, pending, hcontrols, htaken]
    rcases h with htold | hdormant
    · exact Or.inl (by rwa [Told, hcontrols])
    · exact Or.inr (by rwa [Dormant, hworker, hpending])
  · exact Or.inl (told_append hcontrol hcontrols)

/-- A step of the manager touches the channels and not the thread. -/
theorem managerStep_eq_some {input : SenderInput} {queue : QueueEnv} {consumed : ℕ}
    (h : mirrored.managerStep secsF64 format input queue consumed = some next) :
    mirrored.system.step secsF64 format (input.withMirror (mirrored.mirrorEnv queue consumed)) =
        some next.system ∧ next.worker = mirrored.worker ∧ next.taken = mirrored.taken := by
  obtain ⟨system, hsystem, rfl⟩ := Option.map_eq_some_iff.1 h
  cases input <;> exact ⟨hsystem, rfl, rfl⟩

/-- A capture is given up by an idle manager or at the end. -/
theorem input_of_released {system after : SenderSystem} {input : SenderInput}
    (hstep : system.step secsF64 format input = some after) (hbefore : system.manager.capture ≠ none)
    (hafter : after.manager.capture = none) :
    (∃ env, input = .shutdownAll env) ∨ ∃ env, input = .idle env ∧
      system.manager.targets.hasActiveTargets = false ∧
        system.manager.targets.hasPendingTargets = false := by
  obtain ⟨hcapture, -⟩ := step_capture hstep
  rw [hafter] at hcapture
  cases input with
  | shutdownAll env => exact Or.inl ⟨env, rfl⟩
  | idle env =>
    simp only [SenderSystem.captureAfter] at hcapture
    split at hcapture
    · exact absurd hcapture.symm hbefore
    next hidle =>
      rw [Bool.or_eq_true, not_or, Bool.not_eq_true, Bool.not_eq_true] at hidle
      exact Or.inr ⟨env, rfl, hidle⟩
  | connectResult env =>
    simp only [SenderSystem.captureAfter] at hcapture
    split at hcapture
    · rcases SenderManager.capture_ensureCaptureRunning env system.manager with
        ⟨-, hsame⟩ | ⟨hnone, -⟩ | ⟨hnone, -⟩
      · rw [hsame] at hcapture
        exact absurd hcapture.symm hbefore
      · exact absurd hnone hbefore
      · exact absurd hnone hbefore
    · exact absurd hcapture.symm hbefore
  | _ => exact absurd hcapture.symm hbefore

/-- **An idle manager that leaves the mirror safe keeps what is known of it.** -/
theorem kept_managerStep {input : SenderInput} {queue : QueueEnv} {consumed : ℕ}
    (h : mirrored.Kept) (hsafe : mirrored.LeavesSafe (.manager input queue consumed))
    (hstep : mirrored.managerStep secsF64 format input queue consumed = some next) : next.Kept := by
  obtain ⟨hsystem, hworker, htaken⟩ := managerStep_eq_some hstep
  have hsends : next.controls = mirrored.controls ∨
      ∃ control, next.controls = mirrored.controls ++ [control] ∧
        (next.system.manager.capture = none → ∀ request, control ≠ .start request) :=
    step_sends hsystem
  have hgrown : ∃ sent, next.controls = mirrored.controls ++ sent := by
    rcases hsends with hsame | ⟨control, hsent, -⟩
    · exact ⟨[], hsame.trans (List.append_nil _).symm⟩
    · exact ⟨[control], hsent⟩
  have hstays (hknown : mirrored.Told ∨ mirrored.Dormant)
      (hnone : next.system.manager.capture = none) : next.Told ∨ next.Dormant := by
    rcases hsends with hsame | ⟨control, hsent, hstart⟩
    · exact @safe_of_sends _ _ .stop hknown hworker htaken (Or.inl hsame)
    · exact safe_of_sends hknown hworker htaken (Or.inr ⟨hsent, hstart hnone⟩)
  refine ⟨?_, ?_, ?_, ?_, fun hnone ↦ ?_⟩
  · obtain ⟨sent, hsent⟩ := hgrown
    rw [htaken, hsent, List.length_append]
    exact Nat.le_add_right_of_le h.taken
  · obtain ⟨sent, hsent⟩ := hgrown
    rw [hworker, htaken, hsent, List.take_append_of_le_length h.taken]
    exact h.ordered
  · rw [hworker]
    exact h.sink
  · rw [hworker]
    exact h.disabled
  · by_cases hbefore : mirrored.system.manager.capture = none
    · exact hstays (h.idle hbefore) hnone
    -- the capture is released at the end of the loop, and in a round with no target left
    rcases input_of_released hsystem hbefore hnone with ⟨env, hinput⟩ | ⟨env, hinput, hactive, hpending⟩
    · cases input with
      | shutdownAll env =>
        obtain ⟨-, -, hnext⟩ := call_eq_some hsystem
        refine Or.inl (@told_append _ .shutdown mirrored.controls (by simp) ?_)
        rw [controls, hnext]
        exact SenderManager.controls_shutdownAll _ _
      | _ => cases hinput
    · cases input with
      | idle env =>
        rcases hsafe hactive hpending with hstate | hknown
        -- a thread that has ended takes no control, and has no sink left to stop
        · by_cases hended : mirrored.worker.phase = .ended
          · exact Or.inr (Or.inl (hworker ▸ hended))
          · obtain ⟨-, -, hnext⟩ := call_eq_some hsystem
            refine Or.inl (@told_append _ .stop mirrored.controls (by simp) ?_)
            rw [controls, hnext]
            exact SenderManager.controls_stopCaptureIfIdle (decide_eq_true hended) hactive hpending
              hstate
        · exact hstays hknown hnone
      | _ => cases hinput

/-! ### Steps of the thread -/

/-- What a step of the thread must not do to the mirror: enable it or start it, unless it has taken a
`Start`. -/
structure Rests (worker next : MirrorWorker) : Prop where
  enabled : next.enabled = true → worker.enabled = true ∨ worker.isStarting = true
  starting : next.isStarting = true → worker.isStarting = true
  sink : next.sink = true → next.enabled = true ∧ next.isStarting = false
  disabled : next.phase = .waiting ∨ next.phase = .ended → next.enabled = false
  ended : worker.phase = .ended → next.phase = .ended

/-- A step in which no control is taken. -/
theorem Kept.rests (h : mirrored.Kept) (hsystem : next.system = mirrored.system)
    (htaken : next.taken = mirrored.taken) (hrests : Rests mirrored.worker next.worker) :
    next.Kept := by
  have hcontrols : next.controls = mirrored.controls := by rw [controls, controls, hsystem]
  have hpending : next.pending = mirrored.pending := by rw [pending, pending, hcontrols, htaken]
  refine ⟨by rw [htaken, hcontrols]; exact h.taken, fun hbusy ↦ ?_, hrests.sink, hrests.disabled,
    fun hnone ↦ ?_⟩
  · rw [hcontrols, htaken]
    rcases hbusy with henabled | hstarting
    · exact h.ordered (hrests.enabled henabled)
    · exact h.ordered (Or.inr (hrests.starting hstarting))
  · rw [hsystem] at hnone
    rcases h.idle hnone with htold | hended | ⟨henabled, hstarting, hempty⟩
    · exact Or.inl (by rwa [Told, hcontrols])
    · exact Or.inr (Or.inl (hrests.ended hended))
    · refine Or.inr (Or.inr ⟨?_, ?_, hpending.trans hempty⟩)
      · by_contra hnext
        rcases hrests.enabled (Bool.not_eq_false _ ▸ hnext) with hbefore | hbefore
        · rw [henabled] at hbefore
          cases hbefore
        · rw [hstarting] at hbefore
          cases hbefore
      · by_contra hnext
        rw [Bool.not_eq_false] at hnext
        have hbefore := hrests.starting hnext
        rw [hstarting] at hbefore
        cases hbefore

/-- The controls taken after one more. -/
theorem getLast?_take_succ {control : LocalMirrorControl} {rest : List LocalMirrorControl}
    (h : mirrored.pending = control :: rest) :
    mirrored.taken + 1 ≤ mirrored.controls.length ∧
      (mirrored.controls.take (mirrored.taken + 1)).getLast? = some control := by
  have hget : mirrored.controls[mirrored.taken]? = some control := by
    rw [← List.head?_drop, show mirrored.controls.drop mirrored.taken = control :: rest from h,
      List.head?_cons]
  obtain ⟨hlt, -⟩ := List.getElem?_eq_some_iff.1 hget
  refine ⟨hlt, ?_⟩
  rw [List.take_add_one, hget, Option.toList_some, List.getLast?_concat]

/-- **A control is taken.** -/
theorem kept_control {stopped : Except AudioError Unit} {control : LocalMirrorControl}
    {rest : List LocalMirrorControl} {worker : MirrorWorker} (h : mirrored.Kept)
    (hpending : mirrored.pending = control :: rest)
    (htake : mirrored.worker.takeControl stopped control = some worker) :
    (settle false { mirrored with worker, taken := mirrored.taken + 1 }).Kept := by
  obtain ⟨hle, hlast⟩ := getLast?_take_succ hpending
  have hidle : mirrored.system.manager.capture = none → mirrored.Told := by
    intro hnone
    rcases h.idle hnone with htold | hended | ⟨-, -, hempty⟩
    · exact htold
    · simp [MirrorWorker.takeControl, hended] at htake
    · rw [hpending] at hempty
      cases hempty
  have hphase : mirrored.worker.phase = .draining ∧ worker = mirrored.worker.drained stopped control ∨
      mirrored.worker.phase = .waiting ∧ worker = mirrored.worker.awaited control := by
    unfold MirrorWorker.takeControl at htake
    split at htake
    next hdraining => exact Or.inl ⟨hdraining, (Option.some.inj htake).symm⟩
    next hwaiting => exact Or.inr ⟨hwaiting, (Option.some.inj htake).symm⟩
    · cases htake
  -- a sink that is there while the thread waits belongs to an enabled thread
  have hnoSink (hwaiting : mirrored.worker.phase = .waiting) : mirrored.worker.sink = false := by
    by_contra hsink
    obtain ⟨henabled, -⟩ := h.sink (Bool.not_eq_false _ ▸ hsink)
    rw [h.disabled (Or.inl hwaiting)] at henabled
    cases henabled
  have hworker : (∃ request, control = .start request ∧ worker.sink = false ∧
        ¬ (worker.phase = .waiting ∨ worker.phase = .ended)) ∨
      worker.enabled = false ∧ worker.isStarting = false ∧ worker.sink = false := by
    rcases hphase with ⟨hdraining, rfl⟩ | ⟨hwaiting, rfl⟩
    · cases control with
      | start request => exact Or.inl ⟨request, rfl, rfl, by simp [MirrorWorker.drained]⟩
      | stop => exact Or.inr ⟨rfl, rfl, rfl⟩
      | shutdown => exact Or.inr ⟨rfl, rfl, rfl⟩
    · cases control with
      | start request =>
        exact Or.inl ⟨request, rfl, hnoSink hwaiting, by simp [MirrorWorker.awaited]⟩
      | stop => exact Or.inr ⟨h.disabled (Or.inl hwaiting), rfl, hnoSink hwaiting⟩
      | shutdown => exact Or.inr ⟨rfl, rfl, rfl⟩
  refine ⟨hle, fun hbusy ↦ ?_, fun hsink ↦ ?_, fun hresting ↦ ?_, fun hnone ↦ Or.inl (hidle hnone)⟩
  · rcases hworker with ⟨request, rfl, -, -⟩ | ⟨henabled, hstarting, -⟩
    · exact ⟨request, hlast⟩
    · rcases hbusy with hbusy | hbusy
      · exact absurd (henabled.symm.trans hbusy) Bool.false_ne_true
      · exact absurd (hstarting.symm.trans hbusy) Bool.false_ne_true
  · rcases hworker with ⟨request, rfl, hnone, -⟩ | ⟨-, -, hnone⟩
    · exact absurd (hnone.symm.trans hsink) Bool.false_ne_true
    · exact absurd (hnone.symm.trans hsink) Bool.false_ne_true
  · rcases hworker with ⟨request, rfl, -, hbusy⟩ | ⟨henabled, -, -⟩
    · exact absurd hresting hbusy
    · exact henabled

/-- A thread that finds no control goes on as it was. -/
theorem rests_noControl {worker : MirrorWorker} (h : mirrored.Kept)
    (hstep : mirrored.worker.noControl = some worker) : Rests mirrored.worker worker := by
  unfold MirrorWorker.noControl at hstep
  split at hstep
  next hphase =>
    obtain rfl := Option.some.inj hstep
    rcases henabled : mirrored.worker.enabled with - | -
    · refine ⟨fun hnext ↦ ?_, by simp [MirrorWorker.isStarting], fun hsink ↦ ?_, fun _ ↦ rfl,
        by simp [hphase]⟩
      · exact absurd hnext Bool.false_ne_true
      · exact absurd (henabled.symm.trans (h.sink hsink).1) Bool.false_ne_true
    · exact ⟨fun _ ↦ Or.inl henabled, by simp [MirrorWorker.isStarting], fun _ ↦ ⟨rfl, rfl⟩,
        by simp, by simp [hphase]⟩
  next hphase =>
    obtain rfl := Option.some.inj hstep
    refine ⟨Or.inl, by simp [MirrorWorker.isStarting], fun hsink ↦ ⟨(h.sink hsink).1, rfl⟩, by simp,
      by simp [hphase]⟩
  · cases hstep

/-- A sink is opened by a thread that was starting, or not opened at all. -/
theorem rests_opened {backendName : String} {request : PlaybackStartRequest} {waited : Bool}
    {result : Except AudioError Unit} (h : mirrored.Kept)
    (hphase : mirrored.worker.phase = .starting request waited) :
    Rests mirrored.worker (mirrored.worker.opened backendName request waited result) := by
  have hstarting : mirrored.worker.isStarting = true := by simp [MirrorWorker.isStarting, hphase]
  have hnoSink : mirrored.worker.sink ≠ true := fun hsink ↦
    absurd ((h.sink hsink).2.symm.trans hstarting) Bool.false_ne_true
  cases result with
  | ok opened =>
    exact ⟨fun _ ↦ Or.inr hstarting, fun _ ↦ hstarting, fun _ ↦ ⟨rfl, rfl⟩,
      by simp [MirrorWorker.opened], by simp [hphase]⟩
  | error error =>
    exact ⟨fun _ ↦ Or.inr hstarting, fun _ ↦ hstarting, fun hsink ↦ absurd hsink hnoSink,
      by simp [MirrorWorker.opened], by simp [hphase]⟩

/-- A thread that finds no frame keeps its sink. -/
theorem rests_noFrame (h : mirrored.Kept) (hphase : mirrored.worker.phase = .playing) :
    Rests mirrored.worker { mirrored.worker with phase := .draining, reports := [] } :=
  ⟨Or.inl, by simp [MirrorWorker.isStarting], fun hsink ↦ ⟨(h.sink hsink).1, rfl⟩, by simp,
    by simp [hphase]⟩

/-- So does one that plays a frame; a failure closes it. -/
theorem rests_played {bytes : ℕ} {written : Except AudioError Unit} (h : mirrored.Kept)
    (hphase : mirrored.worker.phase = .playing) :
    Rests mirrored.worker (mirrored.worker.played bytes written) := by
  rcases hsink : mirrored.worker.sink with - | -
  · simp only [MirrorWorker.played, hsink, Bool.false_eq_true, if_false]
    exact ⟨by simp, by simp [MirrorWorker.isStarting], by simp, by simp, by simp [hphase]⟩
  · simp only [MirrorWorker.played, hsink, if_true]
    cases written with
    | ok written =>
      exact ⟨Or.inl, by simp [MirrorWorker.isStarting], fun _ ↦ ⟨(h.sink hsink).1, rfl⟩, by simp,
        by simp [hphase]⟩
    | error error =>
      exact ⟨by simp, by simp [MirrorWorker.isStarting], by simp, by simp, by simp [hphase]⟩

/-- **A step of the thread keeps what is known of it.** -/
theorem kept_workerStep {input : WorkerInput} (h : mirrored.Kept)
    (hstep : mirrored.workerStep input = some next) : next.Kept := by
  -- reports are sent before anything else is done
  rcases hreports : mirrored.worker.reports with - | ⟨report, reports⟩
  · cases input with
    | control stopped =>
      rcases hpending : mirrored.pending with - | ⟨control, rest⟩
      · simp [workerStep, hreports, hpending] at hstep
      · simp only [workerStep, hreports, hpending] at hstep
        obtain ⟨worker, htake, rfl⟩ := Option.map_eq_some_iff.1 hstep
        exact kept_control h hpending htake
    | noControl =>
      simp only [workerStep, hreports] at hstep
      split at hstep
      · obtain ⟨worker, hnone, rfl⟩ := Option.map_eq_some_iff.1 hstep
        exact h.rests rfl rfl (rests_noControl h hnone)
      · cases hstep
    | started result =>
      simp only [workerStep, hreports] at hstep
      split at hstep
      next request waited hphase =>
        obtain rfl := Option.some.inj hstep
        exact h.rests rfl rfl (rests_opened h hphase)
      · cases hstep
    | frame bytes written =>
      simp only [workerStep, hreports] at hstep
      split at hstep
      next hphase =>
        obtain rfl := Option.some.inj hstep
        exact h.rests rfl rfl (rests_played h hphase)
      · cases hstep
    | noFrame =>
      simp only [workerStep, hreports] at hstep
      split at hstep
      next hphase =>
        obtain rfl := Option.some.inj hstep
        exact h.rests rfl rfl (rests_noFrame h hphase)
      · cases hstep
    | report => simp [workerStep, hreports] at hstep
  · cases input with
    | report =>
      simp only [workerStep, hreports] at hstep
      obtain rfl := Option.some.inj hstep
      exact h.rests rfl rfl ⟨Or.inl, id, h.sink, h.disabled, id⟩
    | _ => simp [workerStep, hreports] at hstep

/-- **Every step keeps what holds of the thread and its channels.** -/
theorem kept_step {input : MirroredInput} (h : mirrored.Kept) (hsafe : mirrored.LeavesSafe input)
    (hstep : mirrored.step secsF64 format input = some next) : next.Kept := by
  cases input with
  | manager input queue consumed => exact kept_managerStep h hsafe hstep
  | worker input => exact kept_workerStep h hstep

/-- In the beginning the thread waits, and there is no control. -/
theorem kept_start (secsF64 : SecsF64) (setup : SenderSetup) (now : Instant)
    (target : SenderTarget) : (start secsF64 setup now target).Kept := by
  have hcontrols : (start secsF64 setup now target).controls = [] :=
    congrArg (fun shared : SharedState ↦ shared.localMirrorBranch.controls)
      (SenderManager.outside_queueTargetConnect now target (SenderManager.new secsF64 setup)).shared
  refine ⟨Nat.zero_le _, by simp [start, MirrorWorker.isStarting], by simp [start], by simp [start],
    fun _ ↦ Or.inl fun request ↦ ?_⟩
  rw [hcontrols]
  simp

/-- A mirror that is safe to be left alone and has nothing left to do holds no sink. -/
theorem sinkClosed_of_kept (h : mirrored.Kept) : mirrored.SinkClosed := by
  intro hnone _ _ hpending _ _
  have hdisabled : mirrored.worker.enabled = false := by
    by_contra henabled
    rw [Bool.not_eq_false] at henabled
    rcases h.idle hnone with htold | hended | ⟨hdisabled, -, -⟩
    · -- the thread has taken every control, and the last was a `Start`
      obtain ⟨request, hlast⟩ := h.ordered (Or.inl henabled)
      have hall : mirrored.controls.take mirrored.taken = mirrored.controls :=
        List.take_of_length_le (List.drop_eq_nil_iff.1 hpending)
      rw [hall] at hlast
      exact htold request hlast
    · exact absurd ((h.disabled (Or.inr hended)).symm.trans henabled) Bool.false_ne_true
    · exact absurd (hdisabled.symm.trans henabled) Bool.false_ne_true
  refine ⟨hdisabled, ?_⟩
  by_contra hsink
  exact absurd (hdisabled.symm.trans (h.sink (Bool.not_eq_false _ ▸ hsink)).1) Bool.false_ne_true

/-- **The sink does not outlive the cast**, where an idle manager sends a `Stop` or leaves a mirror that
needs none. -/
theorem sink_closed (secsF64 : SecsF64) (format : WireFormat) (setup : SenderSetup) (now : Instant)
    (target : SenderTarget) (inputs : List MirroredInput) (final : MirroredSender)
    (hrun : Transition.run (step secsF64 format) (start secsF64 setup now target) inputs = some final)
    (hsafe : Transition.Along (step secsF64 format) LeavesSafe (start secsF64 setup now target)
      inputs) : final.SinkClosed :=
  sinkClosed_of_kept (@Transition.run_invariant_along _ _ _ _ Kept (fun _ _ _ ↦ kept_step) _ _ _
    (kept_start secsF64 setup now target) hsafe hrun)

end MirroredSender

/-! ### A mirror that starts late -/

namespace Sample

/-- Steps of the manager while the mirror takes no frame. -/
def managed (inputs : List SenderInput) : List MirroredInput :=
  inputs.map fun input ↦ .manager input {} 0

/-- An iteration up to the mirror's reports. -/
def untilReports (env : ManagerEnv) : List SenderInput :=
  [.noCommand, .pendingTargets env, .noConnectResult]

/-- The rest of it. -/
def fromReports (env : ManagerEnv) : List SenderInput :=
  [.mirrorEvents env, .tick env, .capture env, .idle env, .refresh env]

/-- The thread takes a `Stop` and reports it. -/
def threadStops : List MirroredInput := [.worker (.control (.ok ())), .worker .report]

/-- The mirror has started and the thread reports that. -/
def threadStarts : List MirroredInput :=
  [.worker (.started (.ok ())), .worker .report, .worker .report]

/-- A target is open and the mirror plays. -/
def mirroring : List MirroredInput :=
  managed (openedTarget managerEnv) ++ .worker (.control (.ok ())) :: threadStarts

/-- The target is removed while the mirror plays. -/
def removedMirroring : List MirroredInput :=
  mirroring ++
    managed (.command managerEnv (.removeTarget receiverId) :: untilReports {} ++ fromReports {}) ++
    threadStops ++ managed (untilReports {} ++ fromReports {})

/-- The mirror is switched off and on and the target is removed. When the manager learns of the `Stop`
the thread is at the `Start` behind it, and the mirror has started when the target has been added
again. -/
def restarted : List MirroredInput :=
  mirroring ++
    managed ([.command managerEnv (.setLocalMirrorEnabled false),
      .command managerEnv (.setLocalMirrorEnabled true),
      .command managerEnv (.removeTarget receiverId)] ++ untilReports {}) ++
    threadStops ++ [.worker (.control (.ok ()))] ++
    managed (fromReports {} ++ .command {} (.addTarget (senderTarget 1)) ::
      untilReports managerEnv) ++
    threadStarts ++
    managed (fromReports managerEnv ++ .command managerEnv (.removeTarget receiverId) ::
      (untilReports {} ++ fromReports {}))

end Sample

namespace MirroredSender

/-- The run to a target removed while the mirror plays. -/
theorem sink_closed_removed :
    ∃ final : MirroredSender,
      Transition.run (step Sample.secsF64 Sample.senderFormat)
          (start Sample.secsF64 Sample.senderSetup 0 (Sample.senderTarget 1))
          Sample.removedMirroring = some final ∧
        final.system.manager.capture = none ∧ final.settled = true ∧ final.SinkClosed := by
  have hrun : (Transition.run (step Sample.secsF64 Sample.senderFormat)
      (start Sample.secsF64 Sample.senderSetup 0 (Sample.senderTarget 1))
      Sample.removedMirroring).map (fun mirrored ↦
        (mirrored.system.manager.capture, mirrored.settled)) = some (none, true) := by
    decide +kernel
  obtain ⟨final, hrun, hfinal⟩ := Option.map_eq_some_iff.1 hrun
  obtain ⟨hcapture, hsettled⟩ := Prod.mk.inj hfinal
  exact ⟨final, hrun, hcapture, hsettled,
    sink_closed _ _ _ _ _ _ final hrun (by decide +kernel)⟩

/-- **A sink is left behind.** The cast is over, both channels are empty and the manager has completed an
iteration since, but the mirror plays. -/
theorem sink_left_open :
    ∃ final : MirroredSender,
      Transition.run (step Sample.secsF64 Sample.senderFormat)
          (start Sample.secsF64 Sample.senderSetup 0 (Sample.senderTarget 1))
          Sample.restarted = some final ∧
        ¬ final.SinkClosed := by
  have hrun : (Transition.run (step Sample.secsF64 Sample.senderFormat)
      (start Sample.secsF64 Sample.senderSetup 0 (Sample.senderTarget 1))
      Sample.restarted).map (fun mirrored ↦
        ((mirrored.system.manager.capture, mirrored.system.manager.targets.hasActiveTargets,
          mirrored.system.manager.targets.hasPendingTargets),
          (mirrored.pending.isEmpty, mirrored.events.isEmpty, mirrored.settled),
          mirrored.worker.enabled)) =
      some ((none, false, false), (true, true, true), true) := by
    decide +kernel
  obtain ⟨final, hrun, hfinal⟩ := Option.map_eq_some_iff.1 hrun
  simp only [Prod.mk.injEq] at hfinal
  obtain ⟨⟨hcapture, hactive, hpending⟩, ⟨hcontrols, hevents, hsettled⟩, henabled⟩ := hfinal
  refine ⟨final, hrun, fun hclosed ↦ ?_⟩
  obtain ⟨hdisabled, -⟩ := hclosed hcapture hactive hpending (List.isEmpty_iff.1 hcontrols)
    (List.isEmpty_iff.1 hevents) hsettled
  exact absurd (hdisabled.symm.trans henabled) Bool.false_ne_true

end MirroredSender

end SynchroSonic
