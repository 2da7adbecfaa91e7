import SynchroSonic.Transport.FanoutIsolation

/-!
# A capture that has failed

When `try_recv_frame` returns an error the open sessions are failed, but the handle stays where it is:
only `stop_capture_if_idle` clears it, and that waits until no target is open or pending. Until then it
is polled again, and `ensure_capture_running` takes it for a running capture.

`WatchedSender` is the manager with one bit more: whether the handle it holds has returned an error.
-/

namespace SynchroSonic

/-- The manager, and whether the capture it holds has failed. -/
structure WatchedSender where
  system : SenderSystem
  captureFailed : Bool := false

/-- The capture is polled and returns an error. -/
def SenderManager.pollFails (env : ManagerEnv) (manager : SenderManager) : Bool :=
  manager.capture.any fun capture ↦
    match env.tryRecvFrame capture with
    | .error _ => true
    | .ok _ => false

def SenderSystem.pollFails (system : SenderSystem) : SenderInput → Bool
  | .capture env => system.manager.pollFails env
  | _ => false

namespace WatchedSender

/-- The bit is set by an error and goes with the handle. -/
def step (secsF64 : SecsF64) (format : WireFormat) (watched : WatchedSender) (input : SenderInput) :
    Option WatchedSender :=
  (watched.system.step secsF64 format input).map fun next ↦
    ⟨next, next.manager.capture.isSome && (watched.captureFailed || watched.system.pollFails input)⟩

def start (secsF64 : SecsF64) (setup : SenderSetup) (now : Instant) (target : SenderTarget) :
    WatchedSender where
  system := SenderSystem.start secsF64 setup now target

/-- A capture fails only when no target is open and none is pending. -/
def FailsAlone (watched : WatchedSender) (input : SenderInput) : Prop :=
  watched.system.pollFails input = true →
    watched.system.manager.targets.hasActiveTargets = false ∧
      watched.system.manager.targets.hasPendingTargets = false

instance (watched : WatchedSender) (input : SenderInput) : Decidable (watched.FailsAlone input) :=
  inferInstanceAs (Decidable (_ → _ ∧ _))

/-- A capture that has failed is not polled, and a session that is opened does not rely on it: whoever
streams then does so from a capture that has not failed. -/
def SparesFailed (secsF64 : SecsF64) (format : WireFormat) (watched : WatchedSender)
    (input : SenderInput) : Prop :=
  ∀ next, watched.step secsF64 format input = some next →
    (∀ env, input = .capture env → watched.captureFailed = false) ∧
      ∀ env, input = .connectResult env → watched.system.arrivingSession.isSome = true →
        next.captureFailed = false ∧
          (next.system.manager.HasStreaming → next.system.manager.capture.isSome = true)

/-- A capture that has failed is about to be dropped. -/
structure Clearing (watched : WatchedSender) : Prop where
  independent : watched.system.manager.Independent
  idling : watched.captureFailed = true → watched.system.phase = .idling ∧
    watched.system.manager.targets.hasActiveTargets = false ∧
      watched.system.manager.targets.hasPendingTargets = false

end WatchedSender

/-! ### Steps -/

variable {secsF64 : SecsF64} {format : WireFormat}

/-- In this phase the manager has one thing to do. -/
theorem input_of_idling {system next : SenderSystem} {input : SenderInput}
    (hstep : system.step secsF64 format input = some next) (hphase : system.phase = .idling) :
    (∃ env, input = .idle env) ∨ ∃ attempt env, input = .connected attempt env := by
  have hcall {phase after : ManagerPhase} {env : ManagerEnv}
      {body : ManagerEnv → SenderManager → SenderManager}
      (hcall : system.call phase after env body = some next) : phase = .idling :=
    (call_eq_some hcall).1.symm.trans hphase
  cases input with
  | idle env => exact Or.inl ⟨env, rfl⟩
  | connected attempt env => exact Or.inr ⟨attempt, env, rfl⟩
  | command env command => simp [SenderSystem.step, hphase] at hstep
  | noCommand => simp [SenderSystem.step, hphase] at hstep
  | noConnectResult => simp [SenderSystem.step, hphase] at hstep
  | connectResult env =>
    simp only [SenderSystem.step] at hstep
    split at hstep
    · cases hstep
    · cases hcall hstep
  | pendingTargets env => cases hcall hstep
  | mirrorEvents env => cases hcall hstep
  | tick env => cases hcall hstep
  | capture env => cases hcall hstep
  | refresh env => cases hcall hstep
  | shutdownAll env => cases hcall hstep

namespace SenderManager

theorem activeSession_of_not_hasActiveTargets {manager : SenderManager}
    (h : manager.targets.hasActiveTargets = false) (deviceId : DeviceId) :
    manager.targets.activeSession deviceId = none := by
  rcases hsession : manager.targets.activeSession deviceId with - | session
  · rfl
  · rw [hasActiveTargets_of_entryOf (TargetSessionCollection.activeSession_eq_some.1 hsession)] at h
    cases h

/-- Without an open session there is none to fail. -/
theorem failAllActiveTargets_of_not_hasActiveTargets {manager : SenderManager}
    (h : manager.targets.hasActiveTargets = false) (env : ManagerEnv) (message : String) :
    manager.failAllActiveTargets env message = manager := by
  have hnone : manager.targets.activeIds env.order = [] := by
    rw [TargetSessionCollection.activeIds, List.filter_eq_nil_iff]
    intro deviceId _
    rw [activeSession_of_not_hasActiveTargets h]
    exact Bool.false_ne_true
  rw [failAllActiveTargets, hnone]
  rfl

/-- A failed poll without open sessions leaves the collection alone. -/
theorem targets_captureAndFanOut_of_pollFails {env : ManagerEnv} {manager : SenderManager}
    (hfails : manager.pollFails env = true) (h : manager.targets.hasActiveTargets = false) :
    (manager.captureAndFanOut env).targets = manager.targets := by
  rcases hcapture : manager.capture with - | capture
  · rw [pollFails, hcapture] at hfails
    cases hfails
  rcases hpolled : env.tryRecvFrame capture with error | frame
  · have hfailed (message : String) : ((manager.setLastError (some message)).failAllActiveTargets env
        message).targets = manager.targets := by
      have hquiet : (manager.setLastError (some message)).targets.hasActiveTargets = false := h
      rw [failAllActiveTargets_of_not_hasActiveTargets hquiet]
      rfl
    cases error with
    | captureEnded =>
      simp only [captureAndFanOut, hcapture, hpolled]
      exact hfailed _
    | _ =>
      simp only [captureAndFanOut, hcapture, hpolled]
      exact hfailed _
  · simp [pollFails, hcapture, hpolled] at hfails

end SenderManager

namespace WatchedSender

variable {watched next : WatchedSender} {input : SenderInput}

theorem step_eq_some (h : watched.step secsF64 format input = some next) :
    watched.system.step secsF64 format input = some next.system ∧
      next.captureFailed = (next.system.manager.capture.isSome &&
        (watched.captureFailed || watched.system.pollFails input)) := by
  obtain ⟨system, hsystem, rfl⟩ := Option.map_eq_some_iff.1 h
  exact ⟨hsystem, rfl⟩

/-- **A capture that fails alone is dropped at once.** -/
theorem clearing_step (h : watched.Clearing) (halone : watched.FailsAlone input)
    (hstep : watched.step secsF64 format input = some next) : next.Clearing := by
  obtain ⟨hsystem, hfailed⟩ := step_eq_some hstep
  refine ⟨step_independent h.independent hsystem, fun hnext ↦ ?_⟩
  rw [hfailed, Bool.and_eq_true, Bool.or_eq_true] at hnext
  obtain ⟨hcapture, hbefore | hfails⟩ := hnext
  · -- the capture had failed before, so the manager idles
    obtain ⟨hphase, hactive, hpending⟩ := h.idling hbefore
    rcases input_of_idling hsystem hphase with ⟨env, rfl⟩ | ⟨attempt, env, rfl⟩
    · obtain ⟨hcleared, -⟩ := step_capture hsystem
      simp only [SenderSystem.captureAfter, hactive, hpending, Bool.or_self, Bool.false_eq_true,
        if_false] at hcleared
      rw [hcleared] at hcapture
      cases hcapture
    · simp only [SenderSystem.step, hphase] at hsystem
      split at hsystem
      · rw [← Option.some.inj hsystem]
        exact ⟨rfl, hactive, hpending⟩
      · cases hsystem
  · -- the capture fails in this step
    obtain ⟨hactive, hpending⟩ := halone hfails
    cases input with
    | capture env =>
      simp only [SenderSystem.step] at hsystem
      obtain ⟨-, -, hnext⟩ := call_eq_some hsystem
      have htargets := SenderManager.targets_captureAndFanOut_of_pollFails hfails hactive
      rw [hnext]
      exact ⟨rfl, htargets ▸ hactive, htargets ▸ hpending⟩
    | _ => cases hfails

/-- **A capture about to be dropped is left alone.** -/
theorem sparesFailed_of_clearing (h : watched.Clearing) (halone : watched.FailsAlone input) :
    watched.SparesFailed secsF64 format input := by
  intro next hstep
  obtain ⟨hsystem, hfailed⟩ := step_eq_some hstep
  have hbefore (hphase : watched.system.phase ≠ .idling) : watched.captureFailed = false := by
    rcases hfailed : watched.captureFailed with - | -
    · rfl
    · exact absurd (h.idling hfailed).1 hphase
  refine ⟨?_, ?_⟩
  · rintro env rfl
    simp only [SenderSystem.step] at hsystem
    obtain ⟨hphase, -, -⟩ := call_eq_some hsystem
    exact hbefore (by simp [hphase])
  · rintro env rfl -
    have hphase : watched.system.phase ≠ .idling := by
      intro hidling
      rcases input_of_idling hsystem hidling with ⟨_, heq⟩ | ⟨_, _, heq⟩ <;> cases heq
    rw [hfailed, hbefore hphase]
    exact ⟨Bool.and_false _, (clearing_step h halone hstep).independent.captured⟩

/-- **Where captures fail alone, a failed capture is left alone.** In every run in which
`try_recv_frame` returns an error only while no target is open or pending, a capture that has returned
one is not polled again, and whoever streams relies on a capture that was started later. -/
theorem failed_capture_spared (secsF64 : SecsF64) (format : WireFormat) (setup : SenderSetup)
    (now : Instant) (target : SenderTarget) (inputs : List SenderInput)
    (halone : Transition.Along (step secsF64 format) FailsAlone (start secsF64 setup now target)
      inputs) :
    Transition.Along (step secsF64 format) (SparesFailed secsF64 format)
      (start secsF64 setup now target) inputs := by
  refine @Transition.along_of_invariant _ _ _ _ _ Clearing (fun _ _ _ ↦ clearing_step)
    (fun _ _ ↦ sparesFailed_of_clearing) _ _ ⟨?_, fun hfailed ↦ ?_⟩ halone
  · exact start_independent secsF64 setup now target
  · cases hfailed

end WatchedSender

/-! ### A capture that fails alone, and one that does not -/

namespace Sample

def captureEnded : ManagerEnv := { order := [receiverId], tryRecvFrame := fun _ ↦ .error .captureEnded }

/-- The target is removed, and then the capture fails. -/
def removed : List SenderInput :=
  openedTarget managerEnv ++
    [.command {} (.removeTarget receiverId), .noCommand, .pendingTargets {}, .noConnectResult,
      .mirrorEvents {}, .tick {}, .capture { captureEnded with order := [] }]

/-- The capture fails while the target is open. The target is added again before the next tick and
connects. -/
def reconnected : List SenderInput :=
  openedTarget captureEnded ++
    [.command managerEnv (.addTarget (senderTarget 1)), .noCommand, .pendingTargets managerEnv,
      .connected ⟨1, senderTarget 1, 1, connectRequest⟩ accepted, .connectResult managerEnv,
      .noConnectResult, .mirrorEvents managerEnv, .tick managerEnv]

end Sample

namespace WatchedSender

/-- A capture that fails when its only target has been removed. -/
theorem failed_capture_spared_removed :
    ((Transition.run (step Sample.secsF64 Sample.senderFormat)
        (start Sample.secsF64 Sample.senderSetup 0 (Sample.senderTarget 1)) Sample.removed).map
        WatchedSender.captureFailed) = some true ∧
      Transition.Along (step Sample.secsF64 Sample.senderFormat)
        (SparesFailed Sample.secsF64 Sample.senderFormat)
        (start Sample.secsF64 Sample.senderSetup 0 (Sample.senderTarget 1))
        (Sample.removed ++ [.idle {}, .refresh {}]) :=
  ⟨by decide +kernel, failed_capture_spared _ _ _ _ _ _ (by decide +kernel)⟩

/-- **A dead capture is handed to a new session.** The manager is about to poll a capture that has
failed, and the session that was opened afterwards streams from it. -/
theorem failed_capture_reused :
    ((Transition.run (step Sample.secsF64 Sample.senderFormat)
        (start Sample.secsF64 Sample.senderSetup 0 (Sample.senderTarget 1)) Sample.reconnected).map
        fun watched ↦ (watched.captureFailed, watched.system.phase,
          watched.system.manager.capture.isSome,
          watched.system.manager.targets.stateFor Sample.receiverId)) =
      some (true, .capturing, true, some .streaming) := by
  decide +kernel

end WatchedSender

end SynchroSonic
