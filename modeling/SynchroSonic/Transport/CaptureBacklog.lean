import SynchroSonic.Machine.Backlog
import SynchroSonic.Audio.Capture
import SynchroSonic.Transport.FanoutIsolation

/-!
# Captured frames that nobody has read

The thread that reads `pw-record` puts its frames into a channel without a bound, and the manager takes
one of them in each iteration of `run`, between two pauses of five milliseconds.

So the manager is a server that takes one thing a round (`Backlog`). With at most one frame per iteration
none is ever left; as soon as there may be two, any number may wait in the end (`keepsUp_iff`), whatever
the size of a packet.
-/

namespace SynchroSonic

/-- What `start_capture` leaves between the thread that reads and the session: an `mpsc::channel`. -/
structure CaptureChannel where
  /-- The frames on their way, oldest first. -/
  frames : List AudioFrame := []
  /-- The thread has ended. -/
  disconnected : Bool := false
  deriving DecidableEq, Repr

namespace CaptureChannel

/-- `PipeWireCaptureSession::try_recv_frame`. -/
def tryRecvFrame (channel : CaptureChannel) :
    Except AudioError (Option AudioFrame) × CaptureChannel :=
  match channel.frames with
  | frame :: frames => (.ok (some frame), { channel with frames })
  | [] => (if channel.disconnected then .error .captureEnded else .ok none, channel)

theorem length_tryRecvFrame (channel : CaptureChannel) :
    channel.tryRecvFrame.2.frames.length = channel.frames.length - 1 := by
  rw [tryRecvFrame]
  split
  next frame frames hframes => rw [hframes, List.length_cons, Nat.add_sub_cancel]
  next hframes => rw [hframes, List.length_nil]

end CaptureChannel

/-- The manager's thread and the channel of the capture it holds. -/
structure CapturingSender where
  system : SenderSystem
  channel : CaptureChannel := {}
  /-- How many frames have come since `capture_and_fan_out` was called. -/
  arrived : ℕ := 0
  /-- How many have come in front of each call so far. -/
  rounds : List ℕ := []

/-- A step of the thread that reads, or of the manager. -/
inductive CapturingInput
  | frame (frame : AudioFrame)
  | readerEnds
  | manager (input : SenderInput)

namespace CapturingSender

/-- The manager asks the channel for a frame. -/
def fed (sender : CapturingSender) : SenderInput → SenderInput
  | .capture env => .capture { env with tryRecvFrame := fun _ ↦ sender.channel.tryRecvFrame.1 }
  | input => input

/-- The channel behind a step of the manager: the session takes it along when it is dropped. -/
def channelAfter (sender : CapturingSender) (next : SenderSystem) (input : SenderInput) :
    CaptureChannel :=
  if next.manager.capture.isNone then {}
  else
    match input with
    | .capture _ => sender.channel.tryRecvFrame.2
    | _ => sender.channel

/-- One step. -/
def step (secsF64 : SecsF64) (format : WireFormat) (sender : CapturingSender) :
    CapturingInput → Option CapturingSender
  | .frame frame =>
    if sender.system.manager.capture.isSome ∧ sender.channel.disconnected = false then
      some { sender with
        channel := { sender.channel with frames := sender.channel.frames ++ [frame] }
        arrived := sender.arrived + 1 }
    else none
  | .readerEnds =>
    if sender.system.manager.capture.isSome then
      some { sender with channel := { sender.channel with disconnected := true } }
    else none
  | .manager input =>
    (sender.system.step secsF64 format (sender.fed input)).map fun next ↦
      let channel := sender.channelAfter next input
      match input with
      | .capture _ =>
        { system := next, channel, arrived := 0, rounds := sender.rounds ++ [sender.arrived] }
      | _ => { sender with system := next, channel }

def start (secsF64 : SecsF64) (setup : SenderSetup) (now : Instant) (target : SenderTarget) :
    CapturingSender where
  system := SenderSystem.start secsF64 setup now target

end CapturingSender

/-! ### What waits is what a server leaves that takes one frame a round -/

section Waiting

variable {secsF64 : SecsF64} {format : WireFormat} {sender next : CapturingSender}
  {input : CapturingInput}

/-- The channel has no more than a server leaves that has nothing else to do. -/
structure CapturingSender.Behind (sender : CapturingSender) : Prop where
  waiting : sender.channel.frames.length ≤ Backlog.after 1 0 sender.rounds + sender.arrived
  stopped : sender.system.manager.capture.isNone → sender.channel.frames = []

theorem CapturingSender.stopped_channelAfter {next : SenderSystem} {input : SenderInput}
    (h : next.manager.capture.isNone = true) : (sender.channelAfter next input).frames = [] := by
  unfold channelAfter
  rw [if_pos h]

theorem CapturingSender.length_channelAfter (next : SenderSystem) (input : SenderInput) :
    (sender.channelAfter next input).frames.length ≤ sender.channel.frames.length := by
  unfold channelAfter
  split
  · exact Nat.zero_le _
  · split
    · rw [CaptureChannel.length_tryRecvFrame]
      exact Nat.sub_le _ 1
    · exact le_refl _

/-- The call takes a frame, if one is there. -/
theorem CapturingSender.length_channelAfter_capture (next : SenderSystem) (env : ManagerEnv) :
    (sender.channelAfter next (.capture env)).frames.length ≤ sender.channel.frames.length - 1 := by
  rw [channelAfter]
  split
  · exact Nat.zero_le _
  · exact (CaptureChannel.length_tryRecvFrame sender.channel).le

/-- Behind the call the count begins again. -/
theorem CapturingSender.arrived_of_capture {env : ManagerEnv}
    (hstep : sender.step secsF64 format (.manager (.capture env)) = some next) : next.arrived = 0 := by
  simp only [CapturingSender.step] at hstep
  obtain ⟨system, -, rfl⟩ := Option.map_eq_some_iff.mp hstep
  rfl

theorem behind_step (h : sender.Behind) (hstep : sender.step secsF64 format input = some next) :
    next.Behind := by
  have hwaiting := h.waiting
  cases input with
  | frame frame =>
    simp only [CapturingSender.step, Option.ite_none_right_eq_some, Option.some.injEq] at hstep
    obtain ⟨⟨hcapture, -⟩, rfl⟩ := hstep
    refine ⟨?_, fun hnone ↦ ?_⟩
    · show (sender.channel.frames ++ [frame]).length ≤
        Backlog.after 1 0 sender.rounds + (sender.arrived + 1)
      rw [List.length_append, List.length_singleton]
      omega
    · rw [Option.isNone_iff_eq_none] at hnone
      rw [hnone] at hcapture
      exact absurd hcapture Bool.false_ne_true
  | readerEnds =>
    simp only [CapturingSender.step, Option.ite_none_right_eq_some, Option.some.injEq] at hstep
    obtain ⟨-, rfl⟩ := hstep
    exact ⟨hwaiting, h.stopped⟩
  | manager input =>
    simp only [CapturingSender.step] at hstep
    obtain ⟨system, -, hnext⟩ := Option.map_eq_some_iff.mp hstep
    have hstopped := @CapturingSender.stopped_channelAfter sender system input
    cases input with
    | capture env =>
      obtain rfl := hnext
      refine ⟨?_, hstopped⟩
      have htaken := @CapturingSender.length_channelAfter_capture sender system env
      show (sender.channelAfter system (.capture env)).frames.length ≤
        Backlog.after 1 0 (sender.rounds ++ [sender.arrived]) + 0
      -- a round takes one frame, also when several have arrived since the last
      rw [Backlog.after_append]
      show _ ≤ Backlog.after 1 0 sender.rounds + sender.arrived - 1 + 0
      omega
    | _ =>
      obtain rfl := hnext
      exact ⟨(CapturingSender.length_channelAfter _ _).trans hwaiting, hstopped⟩

theorem start_behind (secsF64 : SecsF64) (setup : SenderSetup) (now : Instant)
    (target : SenderTarget) : (CapturingSender.start secsF64 setup now target).Behind :=
  ⟨Nat.zero_le _, fun _ ↦ rfl⟩

end Waiting

/-! ### A round of the loop -/

section Round

variable {secsF64 : SecsF64} {format : WireFormat} {system next : SenderSystem}

/-- A target that will not be done with: its attempt is under way, and keeps the capture. -/
structure SenderSystem.Lingers (deviceId : DeviceId) (system : SenderSystem) : Prop where
  wellKept : system.manager.WellKept
  connectRx : system.manager.connectRx = []
  capture : system.manager.capture.isSome = true
  pending : ∃ queued : PendingTargetSession, queued.inFlight = true ∧
    system.manager.view deviceId = some (.pending queued)

theorem SenderSystem.Lingers.capturing {deviceId : DeviceId} {system : SenderSystem}
    (h : system.Lingers deviceId) : ¬system.manager.capture.isNone = true := by
  rw [Option.isNone_iff_eq_none, ← Ne, ← Option.isSome_iff_ne_none]
  exact h.capture

/-- The calls of an iteration in which nobody sends a command and no attempt comes to an end. -/
def SenderInput.isRoutine : SenderInput → Bool
  | .noCommand | .pendingTargets _ | .noConnectResult | .mirrorEvents _ | .tick _ | .capture _
  | .idle _ | .refresh _ => true
  | _ => false

/-- An entry whose attempt is under way is left alone. -/
theorem apply_of_inFlight {queued : PendingTargetSession} (hflight : queued.inFlight = true)
    {deviceId : DeviceId} {input : SenderInput} (hinput : input.isRoutine = true) :
    (system.targetEvents deviceId input).foldl TargetEvent.apply (some (.pending queued)) =
      some (.pending queued) := by
  have hstarted (now : Instant) :
      TargetEvent.apply (some (.pending queued)) (.started now) = some (.pending queued) := by
    simp [TargetEvent.apply, TargetSessionEntry.started, TargetSessionEntry.isDue, hflight]
  cases input with
  | pendingTargets env => exact hstarted env.now
  | capture env =>
    simp only [SenderSystem.targetEvents, SenderManager.captureEvents]
    split
    · rfl
    · split <;> rfl
  | noCommand | noConnectResult | mirrorEvents env | tick env | idle env | refresh env => rfl
  | command env command | connectResult env | shutdownAll env | connected attempt env => cases hinput

theorem SenderManager.hasPendingTargets_of_view {manager : SenderManager} {deviceId : DeviceId}
    {queued : PendingTargetSession} (h : manager.view deviceId = some (.pending queued)) :
    manager.targets.hasPendingTargets = true := by
  obtain ⟨entry, hentry, hunnamed⟩ := Option.map_eq_some_iff.mp h
  have hpending : entry.isPending = true := by
    cases entry with
    | pending queued => rfl
    | active session => cases hunnamed
    | failed snapshot => cases hunnamed
  rw [TargetSessionCollection.hasPendingTargets, List.any_eq_true]
  exact ⟨⟨deviceId, entry⟩, AList.mem_lookup_iff.1 (Option.mem_def.2 hentry), hpending⟩

/-- The target lingers through every call of such an iteration. -/
theorem lingers_step {deviceId : DeviceId} {input : SenderInput} (h : system.Lingers deviceId)
    (hinput : input.isRoutine = true) (hstep : system.step secsF64 format input = some next) :
    next.Lingers deviceId := by
  obtain ⟨queued, hflight, hview⟩ := h.pending
  have hconnectRx : next.manager.connectRx = system.manager.connectRx := by
    cases step_effect h.wellKept.keyed hstep with
    | tended quiet running phase tended => exact tended.sameThreads.connectRx
    | launched env running phase walked manager =>
      rw [manager]
      exact @SenderManager.processPendingTargets_invariant _
        (fun next ↦ next.connectRx = system.manager.connectRx)
        (fun _ _ _ _ hsame hlaunched ↦ hlaunched.connectRx.trans hsame) env walked rfl
    | queued | result | ended | sent | unsent => cases hinput
  have hcapture : next.manager.capture = system.manager.capture := by
    rw [(step_capture hstep).1]
    cases input with
    | idle env =>
      simp only [SenderSystem.captureAfter, SenderManager.hasPendingTargets_of_view hview,
        Bool.or_true, if_true]
    | connectResult env | shutdownAll env => cases hinput
    | _ => rfl
  refine ⟨step_wellKept h.wellKept hstep, hconnectRx.trans h.connectRx, ?_, queued, hflight, ?_⟩
  · rw [hcapture]
    exact h.capture
  · rw [step_view h.wellKept.keyed hstep deviceId, hview]
    exact apply_of_inFlight hflight hinput

/-- A walk through the collection as it lies. -/
def SenderManager.walk (manager : SenderManager) : ManagerEnv := { order := manager.targets.entries.keys }

theorem SenderManager.walkedBy_walk (manager : SenderManager) : manager.WalkedBy manager.walk :=
  List.Perm.refl _

namespace CapturingSender

variable {deviceId : DeviceId} {phase after : ManagerPhase} {sender next : CapturingSender}

/-- The manager is at this point, a target lingers, and the capture goes on. -/
structure Ready (deviceId : DeviceId) (phase : ManagerPhase) (sender : CapturingSender) : Prop where
  phase : sender.system.phase = phase
  lingers : sender.system.Lingers deviceId
  connected : sender.channel.disconnected = false

/-- No frame has come and none was taken. -/
structure SameFrames (sender next : CapturingSender) : Prop where
  frames : next.channel.frames = sender.channel.frames
  arrived : next.arrived = sender.arrived
  rounds : next.rounds = sender.rounds

theorem SameFrames.trans {latest : CapturingSender} (h : sender.SameFrames next)
    (h' : next.SameFrames latest) : sender.SameFrames latest :=
  ⟨h'.frames.trans h.frames, h'.arrived.trans h.arrived, h'.rounds.trans h.rounds⟩

/-- The manager comes to this point, and the channel stays as it is. -/
structure Comes (secsF64 : SecsF64) (format : WireFormat) (deviceId : DeviceId) (phase : ManagerPhase)
    (sender next : CapturingSender) : Prop where
  run : ∃ inputs, Transition.run (step secsF64 format) sender inputs = some next
  ready : next.Ready deviceId phase
  same : sender.SameFrames next

theorem Ready.comes (h : sender.Ready deviceId phase) :
    Comes secsF64 format deviceId phase sender sender :=
  ⟨⟨[], rfl⟩, h, ⟨rfl, rfl, rfl⟩⟩

/-- A call that does not ask the channel for a frame. -/
theorem Comes.call {mid : CapturingSender} (h : Comes secsF64 format deviceId phase sender mid)
    (input : SenderInput) (hinput : input.isRoutine = true) (hcapture : ∀ env, input ≠ .capture env)
    (hcall : ∃ system, mid.system.step secsF64 format input = some system ∧ system.phase = after) :
    ∃ next, Comes secsF64 format deviceId after sender next := by
  obtain ⟨⟨inputs, hrun⟩, hready, hsame⟩ := h
  obtain ⟨system, hstep, hphase⟩ := hcall
  have hlingers := lingers_step hready.lingers hinput hstep
  have hchannel : mid.channelAfter system input = mid.channel := by
    unfold channelAfter
    rw [if_neg hlingers.capturing]
    cases input with
    | capture env => exact absurd rfl (hcapture env)
    | _ => rfl
  have hfed : mid.fed input = input := by
    cases input with
    | capture env => exact absurd rfl (hcapture env)
    | _ => rfl
  have hnext : mid.step secsF64 format (.manager input) = some { mid with system } := by
    simp only [step, hfed, hstep, Option.map_some, hchannel]
  exact ⟨{ mid with system }, ⟨inputs ++ [.manager input],
    Transition.run_append_singleton.mpr ⟨mid, hrun, hnext⟩⟩, ⟨hphase, hlingers, hready.connected⟩,
    hsame.trans ⟨rfl, rfl, rfl⟩⟩

/-- The call that does. -/
theorem ready_capture (h : sender.Ready deviceId .capturing) :
    ∃ env next, sender.step secsF64 format (.manager (.capture env)) = some next ∧
      next.Ready deviceId .idling ∧
      next.channel.frames.length = sender.channel.frames.length - 1 ∧ next.arrived = 0 ∧
      next.rounds = sender.rounds ++ [sender.arrived] := by
  obtain ⟨system, hsystem⟩ : ∃ system : SenderSystem, system = ⟨.idling,
      sender.system.manager.captureAndFanOut { sender.system.manager.walk with
        tryRecvFrame := fun _ ↦ sender.channel.tryRecvFrame.1 }⟩ := ⟨_, rfl⟩
  have hstep : sender.system.step secsF64 format (sender.fed (.capture sender.system.manager.walk)) =
      some system := by
    rw [hsystem]
    exact if_pos ⟨h.phase, sender.system.manager.walkedBy_walk⟩
  have hlingers := lingers_step h.lingers (by rfl) hstep
  have hchannel : sender.channelAfter system (.capture sender.system.manager.walk) =
      sender.channel.tryRecvFrame.2 := by
    unfold channelAfter
    rw [if_neg hlingers.capturing]
  have hconnected : sender.channel.tryRecvFrame.2.disconnected = false := by
    rw [CaptureChannel.tryRecvFrame]
    split
    · exact h.connected
    · exact h.connected
  refine ⟨sender.system.manager.walk,
    { system, channel := sender.channel.tryRecvFrame.2, arrived := 0, rounds := _ }, ?_,
    ⟨congrArg SenderSystem.phase hsystem, hlingers, hconnected⟩,
    CaptureChannel.length_tryRecvFrame sender.channel, rfl, rfl⟩
  simp only [step, hstep, Option.map_some, hchannel]

/-- Frames come while the manager is elsewhere. -/
theorem exists_arriving (h : sender.Ready deviceId phase) (arriving : ℕ) :
    ∃ inputs next, Transition.run (step secsF64 format) sender inputs = some next ∧
      next.Ready deviceId phase ∧
      next.channel.frames.length = sender.channel.frames.length + arriving ∧
      next.arrived = sender.arrived + arriving ∧ next.rounds = sender.rounds := by
  induction arriving with
  | zero => exact ⟨[], sender, rfl, h, rfl, rfl, rfl⟩
  | succ arriving ih =>
    obtain ⟨inputs, mid, hrun, hready, hframes, harrived, hrounds⟩ := ih
    refine ⟨inputs ++ [.frame Sample.silence], { mid with
      channel := { mid.channel with frames := mid.channel.frames ++ [Sample.silence] }
      arrived := mid.arrived + 1 }, Transition.run_append_singleton.mpr ⟨mid, hrun, ?_⟩,
      ⟨hready.phase, hready.lingers, hready.connected⟩, ?_, ?_, hrounds⟩
    · exact if_pos ⟨hready.lingers.capture, hready.connected⟩
    · show (mid.channel.frames ++ [Sample.silence]).length = _
      rw [List.length_append, hframes]
      rfl
    · show mid.arrived + 1 = _
      rw [harrived]
      rfl

/-- The calls of an iteration in front of `capture_and_fan_out`. -/
theorem exists_before_capture (h : sender.Ready deviceId .commands) :
    ∃ next, Comes secsF64 format deviceId .capturing sender next := by
  have hstart : Comes secsF64 format deviceId _ sender sender := h.comes
  obtain ⟨first, hfirst⟩ := hstart.call .noCommand rfl (by simp) ⟨_, if_pos h.phase, rfl⟩
  obtain ⟨second, hsecond⟩ := hfirst.call (.pendingTargets first.system.manager.walk) rfl (by simp)
    ⟨_, if_pos ⟨hfirst.ready.phase, first.system.manager.walkedBy_walk⟩, rfl⟩
  have hempty : second.system.manager.connectRx.isEmpty = true := by
    rw [hsecond.ready.lingers.connectRx]
    rfl
  obtain ⟨third, hthird⟩ := hsecond.call .noConnectResult rfl (by simp)
    ⟨_, if_pos ⟨hsecond.ready.phase, hempty⟩, rfl⟩
  obtain ⟨fourth, hfourth⟩ := hthird.call (.mirrorEvents third.system.manager.walk) rfl (by simp)
    ⟨_, if_pos ⟨hthird.ready.phase, third.system.manager.walkedBy_walk⟩, rfl⟩
  exact hfourth.call (.tick fourth.system.manager.walk) rfl (by simp)
    ⟨_, if_pos ⟨hfourth.ready.phase, fourth.system.manager.walkedBy_walk⟩, rfl⟩

/-- The calls behind it. -/
theorem exists_after_capture (h : sender.Ready deviceId .idling) :
    ∃ next, Comes secsF64 format deviceId .commands sender next := by
  have hstart : Comes secsF64 format deviceId _ sender sender := h.comes
  obtain ⟨first, hfirst⟩ := hstart.call (.idle sender.system.manager.walk) rfl (by simp)
    ⟨_, if_pos ⟨h.phase, sender.system.manager.walkedBy_walk⟩, rfl⟩
  exact hfirst.call (.refresh first.system.manager.walk) rfl (by simp)
    ⟨_, if_pos ⟨hfirst.ready.phase, first.system.manager.walkedBy_walk⟩, rfl⟩

/-- An iteration up to the call that takes a frame. -/
theorem exists_round (h : sender.Ready deviceId .commands) (arriving : ℕ) :
    ∃ inputs env next,
      Transition.run (step secsF64 format) sender (inputs ++ [.manager (.capture env)]) = some next ∧
        next.Ready deviceId .idling ∧
        next.channel.frames.length = Backlog.serve 1 sender.channel.frames.length arriving ∧
        next.arrived = 0 ∧ next.rounds = sender.rounds ++ [sender.arrived + arriving] := by
  obtain ⟨frames, first, hfirst, hready₁, hframes₁, harrived₁, hrounds₁⟩ :=
    @exists_arriving secsF64 format _ _ _ h arriving
  obtain ⟨second, ⟨calls, hsecond⟩, hready₂, hsame⟩ :=
    @exists_before_capture secsF64 format _ _ hready₁
  obtain ⟨env, third, hthird, hready₃, hframes₃, harrived₃, hrounds₃⟩ :=
    @ready_capture secsF64 format _ _ hready₂
  refine ⟨frames ++ calls, env, third, Transition.run_append_singleton.mpr
    ⟨second, Transition.run_append.mpr ⟨first, hfirst, hsecond⟩, hthird⟩, hready₃, ?_, harrived₃, ?_⟩
  · rw [hframes₃, hsame.frames, hframes₁]
    rfl
  · rw [hrounds₃, hsame.rounds, hsame.arrived, hrounds₁, harrived₁]

/-- **Every schedule comes about**, and leaves what the server leaves. -/
theorem exists_rounds (h : sender.Ready deviceId .commands) (harrived : sender.arrived = 0)
    (arrivals : List ℕ) (last : ℕ) :
    ∃ inputs env next,
      Transition.run (step secsF64 format) sender (inputs ++ [.manager (.capture env)]) = some next ∧
        next.channel.frames.length =
          Backlog.after 1 sender.channel.frames.length (arrivals ++ [last]) ∧
        next.rounds = sender.rounds ++ (arrivals ++ [last]) := by
  induction arrivals generalizing sender with
  | nil =>
    obtain ⟨inputs, env, next, hrun, -, hframes, -, hrounds⟩ :=
      @exists_round secsF64 format _ _ h last
    rw [harrived, Nat.zero_add] at hrounds
    exact ⟨inputs, env, next, hrun, hframes, hrounds⟩
  | cons arriving arrivals ih =>
    obtain ⟨inputs, env, mid, hrun, hready, hframes, hnone, hrounds⟩ :=
      @exists_round secsF64 format _ _ h arriving
    obtain ⟨head, ⟨calls, hhead⟩, hready', hsame⟩ := @exists_after_capture secsF64 format _ _ hready
    obtain ⟨more, env', next, hrun', hframes', hrounds'⟩ := ih hready' (hsame.arrived.trans hnone)
    refine ⟨(inputs ++ [.manager (.capture env)]) ++ (calls ++ more), env', next, ?_, ?_, ?_⟩
    · rw [List.append_assoc, List.append_assoc calls]
      exact Transition.run_append.mpr ⟨mid, hrun, Transition.run_append.mpr ⟨head, hhead, hrun'⟩⟩
    · rw [hframes', hsame.frames, hframes]
      rfl
    · rw [hrounds', hsame.rounds, hrounds, harrived, Nat.zero_add]
      simp

/-- Every entry stands under its own key all the way. -/
theorem wellKept_of_run {setup : SenderSetup} {now : Instant} {target : SenderTarget}
    {inputs : List CapturingInput}
    (h : Transition.run (step secsF64 format) (start secsF64 setup now target) inputs = some sender) :
    sender.system.manager.WellKept := by
  refine @Transition.run_invariant _ _ _ (fun sender ↦ sender.system.manager.WellKept) ?_ _ _ _
    (start_wellKept secsF64 setup now target) h
  intro sender input next hsender hstep
  cases input with
  | frame frame =>
    simp only [step, Option.ite_none_right_eq_some, Option.some.injEq] at hstep
    obtain ⟨-, rfl⟩ := hstep
    exact hsender
  | readerEnds =>
    simp only [step, Option.ite_none_right_eq_some, Option.some.injEq] at hstep
    obtain ⟨-, rfl⟩ := hstep
    exact hsender
  | manager input =>
    simp only [step] at hstep
    obtain ⟨system, hsystem, hnext⟩ := Option.map_eq_some_iff.mp hstep
    have hkept := step_wellKept hsender hsystem
    cases input with
    | capture env =>
      obtain rfl := hnext
      exact hkept
    | _ =>
      obtain rfl := hnext
      exact hkept

end CapturingSender

end Round

/-! ### Whether the manager keeps up -/

namespace Sample

/-- A session is open, and the attempt for a second target does not come to an end. -/
def lingering : List CapturingInput :=
  (openedTarget managerEnv ++ [SenderInput.command {} (.addTarget secondTarget), .noCommand,
    .pendingTargets bothEnv, .noConnectResult, .mirrorEvents bothEnv, .tick bothEnv,
    .capture bothEnv, .idle bothEnv, .refresh bothEnv]).map .manager

/-- Two iterations are over. -/
theorem lingering_ready : ∃ sender : CapturingSender,
    Transition.run (CapturingSender.step secsF64 senderFormat)
        (CapturingSender.start secsF64 senderSetup 0 (senderTarget 1)) lingering = some sender ∧
      sender.Ready secondId .commands ∧ sender.channel.frames = [] ∧ sender.arrived = 0 ∧
      sender.rounds = [0, 0] := by
  have hrun : (Transition.run (CapturingSender.step secsF64 senderFormat)
      (CapturingSender.start secsF64 senderSetup 0 (senderTarget 1)) lingering).map (fun sender ↦
        ((sender.system.phase, sender.system.manager.connectRx.isEmpty,
          sender.system.manager.capture.isSome), (sender.channel, sender.arrived, sender.rounds),
          (sender.system.manager.targets.pendingSession secondId).map fun queued ↦ queued.inFlight)) =
      some ((.commands, true, true), ({}, 0, [0, 0]), some true) := by
    decide +kernel
  obtain ⟨sender, hrun, hsender⟩ := Option.map_eq_some_iff.mp hrun
  simp only [Prod.mk.injEq] at hsender
  obtain ⟨⟨hphase, hempty, hcapture⟩, ⟨hchannel, harrived, hrounds⟩, hpending⟩ := hsender
  obtain ⟨queued, hqueued, hflight⟩ := Option.map_eq_some_iff.mp hpending
  have hentry := TargetSessionCollection.pendingSession_eq_some.mp hqueued
  have hview : sender.system.manager.view secondId =
      some (.pending { queued with launched := none }) :=
    congrArg (Option.map TargetSessionEntry.unnamed) hentry
  have hlingers : sender.system.Lingers secondId :=
    ⟨CapturingSender.wellKept_of_run hrun, List.isEmpty_iff.mp hempty, hcapture,
      ⟨{ queued with launched := none }, hflight, hview⟩⟩
  exact ⟨sender, hrun, ⟨hphase, hlingers, congrArg CaptureChannel.disconnected hchannel⟩,
    congrArg CaptureChannel.frames hchannel, harrived, hrounds⟩

end Sample

/-- What waits behind each call of `capture_and_fan_out` is bounded, whatever else happens, if at most
so many frames come in front of each. -/
def KeepsUp (most : ℕ) : Prop :=
  ∃ bound, ∀ (secsF64 : SecsF64) (format : WireFormat) (setup : SenderSetup) (now : Instant)
    (target : SenderTarget) (inputs : List CapturingInput) (env : ManagerEnv)
    (final : CapturingSender), validateCaptureSettings setup.captureSettings = .ok () →
    Transition.run (CapturingSender.step secsF64 format)
      (CapturingSender.start secsF64 setup now target) (inputs ++ [.manager (.capture env)]) =
        some final →
    (∀ arrived ∈ final.rounds, arrived ≤ most) → final.channel.frames.length ≤ bound

/-- The manager keeps up as the server does. -/
theorem keepsUp_iff_backlog (most : ℕ) :
    KeepsUp most ↔ ∃ bound, ∀ arrivals : List ℕ, (∀ arriving ∈ arrivals, arriving ≤ most) →
      Backlog.after 1 0 arrivals ≤ bound := by
  constructor
  · rintro ⟨bound, hbound⟩
    refine ⟨bound, ?_⟩
    intro arrivals harrivals
    rcases List.eq_nil_or_concat arrivals with rfl | ⟨before, last, rfl⟩
    · exact Nat.zero_le bound
    -- any arrivals can happen: a session is brought up, and then each round finds what it is given
    · obtain ⟨sender, hstart, hready, hframes, harrived, hrounds⟩ := Sample.lingering_ready
      obtain ⟨inputs, env, final, hrun, hwaiting, hall⟩ :=
        @CapturingSender.exists_rounds Sample.secsF64 Sample.senderFormat _ _ hready harrived before last
      rw [List.concat_eq_append] at harrivals ⊢
      rw [hframes] at hwaiting
      have hfinal := hbound _ _ _ _ _ (Sample.lingering ++ inputs) env final rfl
        (by
          rw [List.append_assoc]
          exact Transition.run_append.mpr ⟨sender, hstart, hrun⟩)
      rw [hall, hrounds, hwaiting] at hfinal
      refine hfinal ?_
      intro arrived hmem
      rcases List.mem_append.mp hmem with hmem | hmem
      · have hzero : arrived = 0 := by simpa using hmem
        omega
      · exact harrivals arrived hmem
  · rintro ⟨bound, hbound⟩
    refine ⟨bound, ?_⟩
    intro secsF64 format setup now target inputs env final _ hrun hmost
    -- no run has more waiting than the arithmetic of its rounds
    have hbehind : final.Behind := Transition.run_invariant (fun _ _ _ ↦ behind_step)
      (start_behind secsF64 setup now target) hrun
    obtain ⟨before, -, hlast⟩ := Transition.run_append_singleton.mp hrun
    have hnone : final.arrived = 0 := CapturingSender.arrived_of_capture hlast
    have hwaiting := hbehind.waiting
    have hserved := hbound final.rounds hmost
    omega

/-- **The manager keeps up with at most one frame per iteration, and with no more.** -/
theorem keepsUp_iff (most : ℕ) : KeepsUp most ↔ most ≤ 1 := by
  rw [keepsUp_iff_backlog, Backlog.bounded_iff]

/-- **With two frames per iteration any number may wait.** -/
theorem sender_falls_behind : ¬KeepsUp 2 := by
  rw [keepsUp_iff_backlog, Backlog.bounded_iff]
  omega

end SynchroSonic
