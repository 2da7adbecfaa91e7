import SynchroSonic.Transport.PublishedState
import SynchroSonic.Transport.SharedState

/-!
# Fan-out and failure isolation

Every captured frame is offered once to every open session, in whatever order the collection is walked
through, and what becomes of the other targets makes no difference to a target that has not failed.

The one thing through which targets could reach each other is the capture: a capture that cannot be
started fails every open session. `streaming_captured` is the invariant that closes this way — as long
as a session streams the capture is running, so it is not started again.
-/

namespace SynchroSonic

namespace SenderManager

/-- While a session streams, the capture is running. -/
def StreamingCaptured (manager : SenderManager) : Prop :=
  manager.HasStreaming → manager.capture.isSome = true

end SenderManager

/-! ### Sessions that stream -/

namespace ManagedTargetSession

variable {session : ManagedTargetSession}

/-- A session that does not stream does not start to. -/
theorem tick_not_streaming (interval : Duration) (env : TickEnv)
    (h : session.snapshot.state ≠ .streaming) :
    (session.tick interval env).2.snapshot.state ≠ .streaming := by
  refine @tick_invariant (fun session ↦ session.snapshot.state ≠ .streaming)
    (fun now session inbound h ↦ ?_) (fun now session event h ↦ ?_)
    (fun _ _ _ _ _ session h ↦ ?_) (fun _ _ h ↦ h) (fun session h ↦ ?_) interval env session h
  · cases inbound with
    | heartbeatAck nonce wireBytes =>
      simp only [handleInbound]
      split <;> exact h
    | _ => simp [handleInbound, setError]
  · cases event with
    | error message => simp [handleNetworkEvent, setError]
    | _ => exact h
  · simp only [heartbeat, h, false_and, if_false]
    exact h
  · simp only [refreshHealth, ne_eq, h, not_false_eq_true, if_true]

/-- A frame does not make a session stream. -/
theorem offer_not_streaming (env : QueueEnv) (frame : FanoutAudioFrame)
    (h : session.snapshot.state ≠ .streaming) :
    (session.offer env frame).2.snapshot.state ≠ .streaming := by
  unfold offer pushFrame
  rcases session.networkBranch.push env frame with ⟨error | outcome, networkBranch⟩
  · simp [setError]
  · show (ManagedTargetSession.refreshHealth _).snapshot.state ≠ .streaming
    unfold refreshHealth
    split
    · exact h
    · exact h

end ManagedTargetSession

/-- An entry that streams. -/
def TargetSessionEntry.isStreaming : TargetSessionEntry → Bool
  | .active session => session.snapshot.state == .streaming
  | _ => false

/-- Whether a session streams can be seen in the views. -/
theorem SenderManager.hasStreaming_iff {manager : SenderManager} :
    manager.HasStreaming ↔
      ∃ deviceId, (manager.view deviceId).any TargetSessionEntry.isStreaming = true := by
  constructor
  · rintro ⟨deviceId, session, hentry, hstate⟩
    refine ⟨deviceId, ?_⟩
    rw [view, hentry]
    exact beq_iff_eq.2 hstate
  · rintro ⟨deviceId, hstreaming⟩
    rcases hentry : manager.entryOf deviceId with - | queued | session | snapshot
    · simp [view, hentry] at hstreaming
    · simp [view, hentry, TargetSessionEntry.unnamed, TargetSessionEntry.isStreaming] at hstreaming
    · rw [view, hentry] at hstreaming
      exact ⟨deviceId, session, hentry, beq_iff_eq.1 hstreaming⟩
    · simp [view, hentry, TargetSessionEntry.unnamed, TargetSessionEntry.isStreaming] at hstreaming

namespace TargetEvent

/-- The event of a connection. -/
def isConnected : TargetEvent → Bool
  | .connected _ => true
  | _ => false

/-- **Only a connection makes a target stream.** -/
theorem apply_isStreaming {event : TargetEvent} (hevent : event.isConnected = false)
    {entry : Option TargetSessionEntry}
    (h : (apply entry event).any TargetSessionEntry.isStreaming = true) :
    entry.any TargetSessionEntry.isStreaming = true := by
  -- events that change the entry that is there
  have hmap {change : TargetSessionEntry → TargetSessionEntry}
      (hchange : ∀ entry : TargetSessionEntry, (change entry).isStreaming = true →
        entry.isStreaming = true)
      (h : (entry.map change).any TargetSessionEntry.isStreaming = true) :
      entry.any TargetSessionEntry.isStreaming = true := by
    rcases entry with - | entry
    · exact h
    · exact hchange entry h
  have hact {act : ManagedTargetSession → Bool × ManagedTargetSession}
      (hact : ∀ session : ManagedTargetSession, session.snapshot.state ≠ .streaming →
        (act session).2.snapshot.state ≠ .streaming) (writerJoined : Bool)
      (entry : TargetSessionEntry) (h : (entry.actOn act writerJoined).isStreaming = true) :
      entry.isStreaming = true := by
    cases entry with
    | pending queued => exact h
    | failed snapshot => exact h
    | active session =>
      simp only [TargetSessionEntry.actOn, TargetSessionEntry.settled] at h
      split at h
      · by_contra hstate
        simp only [TargetSessionEntry.isStreaming, beq_iff_eq] at h hstate
        exact hact session hstate h
      · cases h
  cases event with
  | queued now target =>
    simp only [apply] at h
    split at h
    · exact h
    · cases h
  | removed => cases h
  | started now =>
    refine hmap (fun entry hentry ↦ ?_) h
    cases entry with
    | pending queued =>
      simp only [TargetSessionEntry.started] at hentry
      split at hentry <;> cases hentry
    | active session => exact hentry
    | failed snapshot => exact hentry
  | connected session => cases hevent
  | failed now nowUnixMs failure =>
    refine hmap (fun entry hentry ↦ ?_) h
    by_cases hretries : SenderManager.retries failure = true
    · rw [TargetSessionEntry.afterFailure_of_retries hretries] at hentry
      cases entry with
      | pending queued => cases hentry
      | active session => exact hentry
      | failed snapshot => exact hentry
    · rw [TargetSessionEntry.afterFailure_of_not_retries hretries] at hentry
      cases hentry
  | ticked interval env writerJoined =>
    exact hmap (hact (fun _ ↦ ManagedTargetSession.tick_not_streaming interval env) writerJoined) h
  | offered env frame writerJoined =>
    exact hmap (hact (fun _ ↦ ManagedTargetSession.offer_not_streaming env frame) writerJoined) h
  | errored message =>
    refine hmap (fun entry hentry ↦ ?_) h
    cases entry with
    | pending queued => exact hentry
    | active session => cases hentry
    | failed snapshot => exact hentry

/-- A session begins to stream by its connection only. -/
theorem foldl_apply_isStreaming {events : List TargetEvent}
    (hevents : ∀ event ∈ events, event.isConnected = false) {entry : Option TargetSessionEntry}
    (h : (events.foldl apply entry).any TargetSessionEntry.isStreaming = true) :
    entry.any TargetSessionEntry.isStreaming = true := by
  induction events generalizing entry with
  | nil => exact h
  | cons event events ih =>
    obtain ⟨hevent, hevents⟩ := List.forall_mem_cons.1 hevents
    exact apply_isStreaming hevent (ih hevents h)

end TargetEvent

/-! ### The capture runs while a session streams -/

/-- An open session is an active target. -/
theorem SenderManager.hasActiveTargets_of_entryOf {manager : SenderManager} {deviceId : DeviceId}
    {session : ManagedTargetSession} (h : manager.entryOf deviceId = some (.active session)) :
    manager.targets.hasActiveTargets = true := by
  rw [TargetSessionCollection.hasActiveTargets, List.any_eq_true]
  exact ⟨⟨deviceId, .active session⟩, AList.mem_lookup_iff.1 (Option.mem_def.2 h), rfl⟩

/-- The result at the head of the channel opens no session of a target that is wanted. -/
theorem isConnected_of_arrivingSession {system : SenderSystem} {env : ManagerEnv}
    {deviceId : DeviceId} (h : system.arrivingSession = none) :
    ∀ event ∈ system.targetEvents deviceId (.connectResult env), event.isConnected = false := by
  intro event hmem
  simp only [SenderSystem.arrivingSession] at h
  simp only [SenderSystem.targetEvents] at hmem
  rcases hhead : system.manager.connectRx with - | ⟨⟨attempt, failure | session⟩, connectRx⟩
  · rw [hhead] at hmem
    exact absurd hmem List.not_mem_nil
  · rw [hhead] at hmem
    simp only [SenderManager.resultEvents] at hmem
    split at hmem
    · obtain rfl := List.mem_singleton.1 hmem
      rfl
    · exact absurd hmem List.not_mem_nil
  · rw [hhead] at h hmem
    simp only [ite_eq_right_iff, reduceCtorEq, imp_false] at h
    simp only [SenderManager.resultEvents, h] at hmem
    exact absurd hmem List.not_mem_nil

/-- Any other step opens no session. -/
theorem isConnected_of_targetEvents {system : SenderSystem} {deviceId : DeviceId}
    {input : SenderInput} (h : ∀ env, input ≠ .connectResult env) :
    ∀ event ∈ system.targetEvents deviceId input, event.isConnected = false := by
  intro event hmem
  have hone {first : TargetEvent} (hfirst : first.isConnected = false) (hmem : event ∈ [first]) :
      event.isConnected = false := by
    obtain rfl := List.mem_singleton.1 hmem
    exact hfirst
  cases input with
  | command env command =>
    cases command with
    | addTarget target =>
      simp only [SenderSystem.targetEvents] at hmem
      split at hmem
      · exact hone rfl hmem
      · exact absurd hmem List.not_mem_nil
    | removeTarget removed =>
      simp only [SenderSystem.targetEvents] at hmem
      split at hmem
      · exact hone rfl hmem
      · exact absurd hmem List.not_mem_nil
    | _ => exact absurd hmem List.not_mem_nil
  | connectResult env => exact absurd rfl (h env)
  | pendingTargets env => exact hone rfl hmem
  | tick env => exact hone rfl hmem
  | capture env =>
    simp only [SenderSystem.targetEvents, SenderManager.captureEvents] at hmem
    split at hmem
    · exact absurd hmem List.not_mem_nil
    split at hmem
    · exact absurd hmem List.not_mem_nil
    · exact hone rfl hmem
    · exact hone rfl hmem
    · exact hone rfl hmem
  | shutdownAll env => exact hone rfl hmem
  | _ => exact absurd hmem List.not_mem_nil

/-- A capture that does not start leaves no session streaming. -/
theorem not_isStreaming_of_capture_error {system : SenderSystem} {env : ManagerEnv}
    {session : ManagedTargetSession} (h : system.arrivingSession = some session)
    {error : TransportError} (herror : (system.manager.ensureCaptureRunning env).1 = .error error)
    (deviceId : DeviceId) (entry : Option TargetSessionEntry) :
    ((system.targetEvents deviceId (.connectResult env)).foldl TargetEvent.apply entry).any
      TargetSessionEntry.isStreaming = false := by
  have herrored (entry : Option TargetSessionEntry) :
      (TargetEvent.apply entry (.errored error.display)).any TargetSessionEntry.isStreaming =
        false := by
    rcases entry with - | queued | session | snapshot <;> rfl
  obtain ⟨attempt, connectRx, hhead, hcontains⟩ := arrivingSession_eq_some h
  simp only [SenderSystem.targetEvents, hhead, SenderManager.resultEvents, hcontains, if_true,
    herror, List.foldl_append, List.foldl_cons, List.foldl_nil]
  exact herrored _

/-- **No session streams without a capture**, after every step. -/
theorem step_streamingCaptured {secsF64 : SecsF64} {format : WireFormat}
    {system next : SenderSystem} {input : SenderInput} (h : system.manager.StreamingCaptured)
    (hkeyed : system.manager.Keyed) (hstep : system.step secsF64 format input = some next) :
    next.manager.StreamingCaptured := by
  intro hstreaming
  obtain ⟨hcapture, -⟩ := step_capture hstep
  obtain ⟨deviceId, hview⟩ := SenderManager.hasStreaming_iff.1 hstreaming
  rw [step_view hkeyed hstep deviceId] at hview
  -- a step that opens no session finds one that streams, and so the capture
  have hrunning (hevents : ∀ event ∈ system.targetEvents deviceId input, event.isConnected = false) :
      system.manager.capture.isSome = true :=
    h (SenderManager.hasStreaming_iff.2
      ⟨deviceId, TargetEvent.foldl_apply_isStreaming hevents hview⟩)
  rw [hcapture]
  cases input with
  | connectResult env =>
    rcases harriving : system.arrivingSession with - | session
    · simp only [SenderSystem.captureAfter, harriving, Option.isSome_none, Bool.false_eq_true, if_false]
      exact hrunning (isConnected_of_arrivingSession harriving)
    · simp only [SenderSystem.captureAfter, harriving, Option.isSome_some, if_true]
      rcases SenderManager.capture_ensureCaptureRunning env system.manager with
        ⟨hrunning, hsame⟩ | ⟨-, capture, -, hstarted⟩ | ⟨-, error, -, hrun⟩
      · rw [hsame]
        exact hrunning
      · rw [hstarted]
        rfl
      · rw [not_isStreaming_of_capture_error harriving (congrArg Prod.fst hrun)] at hview
        cases hview
  | idle env =>
    obtain ⟨deviceId, session, hentry, -⟩ := hstreaming
    simp only [SenderSystem.step] at hstep
    obtain ⟨-, -, rfl⟩ := call_eq_some hstep
    have hactive : system.manager.targets.hasActiveTargets = true := by
      have hactive := SenderManager.hasActiveTargets_of_entryOf hentry
      rwa [SenderManager.targets_stopCaptureIfIdle] at hactive
    simp only [SenderSystem.captureAfter, hactive, Bool.true_or, if_true]
    exact hrunning (isConnected_of_targetEvents (by simp))
  | shutdownAll env => cases hview
  | _ => exact hrunning (isConnected_of_targetEvents (by simp))

/-! ### A target by itself -/

/-- An open session that has failed and has not been shut down yet. -/
def SenderManager.Failing (deviceId : DeviceId) (manager : SenderManager) : Prop :=
  ∃ session, manager.entryOf deviceId = some (.active session) ∧ session.snapshot.state = .error

/-- The target the next result is about. -/
def SenderSystem.resultFor (system : SenderSystem) : Option DeviceId :=
  system.manager.connectRx.head?.map fun result ↦ SenderManager.receiverIdOf result.2

/-- What a step means for a target by itself: its own commands and results, an attempt that is due, and
for an open session the ticks and the frames. -/
def SenderSystem.ownEvents (deviceId : DeviceId) (system : SenderSystem) (input : SenderInput) :
    List TargetEvent :=
  match input with
  | .pendingTargets env =>
    if (system.manager.view deviceId).any (TargetSessionEntry.isDue env.now) then
      system.targetEvents deviceId input
    else []
  | .connectResult _ =>
    if system.resultFor = some deviceId then system.targetEvents deviceId input else []
  | .tick _ | .capture _ =>
    if (system.manager.view deviceId).any TargetSessionEntry.isActive then
      system.targetEvents deviceId input
    else []
  | _ => system.targetEvents deviceId input

/-- What a run means for a target by itself. -/
def SenderSystem.ownHistory (secsF64 : SecsF64) (format : WireFormat) (deviceId : DeviceId) :
    SenderSystem → List SenderInput → List TargetEvent
  | _, [] => []
  | system, input :: inputs =>
    system.ownEvents deviceId input ++
      ((system.step secsF64 format input).map fun next ↦
        next.ownHistory secsF64 format deviceId inputs).getD []

namespace TargetEvent

/-- A target that is not due sees nothing of a start. -/
theorem apply_started_of_not_due {now : Instant} {entry : Option TargetSessionEntry}
    (h : ¬ entry.any (TargetSessionEntry.isDue now) = true) :
    apply entry (.started now) = entry := by
  rcases entry with - | queued | session | snapshot
  · rfl
  · have hidle : ¬ (TargetSessionEntry.pending queued).isDue now = true := h
    show some (TargetSessionEntry.started now (.pending queued)) = _
    rw [TargetSessionEntry.started, if_neg hidle]
  · rfl
  · rfl

/-- What happens to open sessions happens to no other entry. -/
theorem foldl_apply_of_not_active {events : List TargetEvent} {entry : Option TargetSessionEntry}
    (hevents : ∀ event ∈ events, (∃ interval env writerJoined, event = .ticked interval env writerJoined)
      ∨ (∃ env frame writerJoined, event = .offered env frame writerJoined)
      ∨ ∃ message, event = .errored message)
    (h : ¬ entry.any TargetSessionEntry.isActive = true) : events.foldl apply entry = entry := by
  induction events with
  | nil => rfl
  | cons event events ih =>
    obtain ⟨hevent, hevents⟩ := List.forall_mem_cons.1 hevents
    have hsame : apply entry event = entry := by
      rcases entry with - | queued | session | snapshot
      · rcases hevent with ⟨_, _, _, rfl⟩ | ⟨_, _, _, rfl⟩ | ⟨_, rfl⟩ <;> rfl
      · rcases hevent with ⟨_, _, _, rfl⟩ | ⟨_, _, _, rfl⟩ | ⟨_, rfl⟩ <;> rfl
      · exact absurd rfl h
      · rcases hevent with ⟨_, _, _, rfl⟩ | ⟨_, _, _, rfl⟩ | ⟨_, rfl⟩ <;> rfl
    rw [List.foldl_cons, hsame, ih hevents]

end TargetEvent

/-- What must hold of a manager for its targets to be independent. -/
structure SenderManager.Independent (manager : SenderManager) : Prop extends
    SenderManager.Consistent manager where
  captured : manager.StreamingCaptured

/-- **Every step keeps the targets independent.** -/
theorem step_independent {secsF64 : SecsF64} {format : WireFormat} {system next : SenderSystem}
    {input : SenderInput} (h : system.manager.Independent)
    (hstep : system.step secsF64 format input = some next) : next.manager.Independent :=
  ⟨step_consistent h.toConsistent hstep, step_streamingCaptured h.captured h.keyed hstep⟩

/-- The first target stands alone. -/
theorem start_independent (secsF64 : SecsF64) (setup : SenderSetup) (now : Instant)
    (target : SenderTarget) : (SenderSystem.start secsF64 setup now target).manager.Independent := by
  refine ⟨start_consistent secsF64 setup now target, fun hstreaming ↦ ?_⟩
  obtain ⟨deviceId, hview⟩ := SenderManager.hasStreaming_iff.1 hstreaming
  rw [show (SenderSystem.start secsF64 setup now target).manager.view deviceId = _ from
    SenderManager.view_queueTargetConnect now target deviceId (SenderManager.new secsF64 setup)] at hview
  split at hview
  · cases hview
  · cases hview

/-- **A result of another target** does nothing to a target that has not failed, whatever the result
is and whether or not the capture starts. -/
theorem view_other_result {secsF64 : SecsF64} {format : WireFormat} {system next : SenderSystem}
    {env : ManagerEnv} (h : system.manager.Independent)
    (hstep : system.step secsF64 format (.connectResult env) = some next) {deviceId : DeviceId}
    (hsound : ¬ system.manager.Failing deviceId) (hother : system.resultFor ≠ some deviceId) :
    next.manager.view deviceId = system.manager.view deviceId := by
  rw [step_view h.keyed hstep deviceId]
  simp only [SenderSystem.targetEvents]
  split
  · rfl
  next attempt result connectRx hhead =>
  rw [SenderSystem.resultFor, hhead] at hother
  have hne : SenderManager.receiverIdOf result ≠ deviceId := fun heq ↦ hother (congrArg some heq)
  cases result with
  | error failure =>
    have hne : ¬ failure.snapshot.receiverId = deviceId := hne
    rw [SenderManager.resultEvents, if_neg hne]
    rfl
  | ok session =>
    have hne : ¬ session.target.receiverId = deviceId := hne
    simp only [SenderManager.resultEvents, hne, if_false, List.nil_append]
    split
    · split
      · rfl
      next error herror =>
        -- the capture does not start, so it did not run and the target does not stream
        refine TargetEvent.foldl_apply_of_not_active
          (by simp) fun hactive ↦ ?_
        have hnone : ¬ system.manager.HasStreaming := by
          intro hstreaming
          rcases SenderManager.capture_ensureCaptureRunning env system.manager with
            ⟨-, hsame⟩ | ⟨hnone, -⟩ | ⟨hnone, -⟩
          · rw [hsame] at herror
            cases herror
          · have hrunning := h.captured hstreaming
            rw [hnone] at hrunning
            cases hrunning
          · have hrunning := h.captured hstreaming
            rw [hnone] at hrunning
            cases hrunning
        rcases hentry : system.manager.entryOf deviceId with - | queued | session | snapshot
        · simp [SenderManager.view, hentry] at hactive
        · simp [SenderManager.view, hentry, TargetSessionEntry.unnamed,
            TargetSessionEntry.isActive] at hactive
        · rcases (h.entries deviceId _ hentry).state with hstate | hstate
          · exact hnone ⟨deviceId, session, hentry, hstate⟩
          · exact hsound ⟨session, hentry, hstate⟩
        · simp [SenderManager.view, hentry, TargetSessionEntry.unnamed,
            TargetSessionEntry.isActive] at hactive
    · rfl

/-- **A step does to a target that has not failed what it means for this target by itself.** -/
theorem step_view_own {secsF64 : SecsF64} {format : WireFormat} {system next : SenderSystem}
    {input : SenderInput} (h : system.manager.Independent)
    (hstep : system.step secsF64 format input = some next) {deviceId : DeviceId}
    (hsound : ¬ system.manager.Failing deviceId) :
    next.manager.view deviceId =
      (system.ownEvents deviceId input).foldl TargetEvent.apply (system.manager.view deviceId) := by
  have hstepView := step_view h.keyed hstep deviceId
  cases input with
  | pendingTargets env =>
    simp only [SenderSystem.ownEvents]
    -- an event that does not concern the target leaves its entry as it is
    split
    · exact hstepView
    next hdue => exact hstepView.trans (TargetEvent.apply_started_of_not_due hdue)
  | connectResult env =>
    simp only [SenderSystem.ownEvents]
    split
    · exact hstepView
    next hother => exact view_other_result h hstep hsound hother
  | tick env =>
    simp only [SenderSystem.ownEvents]
    split
    · exact hstepView
    next hactive =>
      refine hstepView.trans (TargetEvent.foldl_apply_of_not_active (fun event hmem ↦ ?_) hactive)
      exact Or.inl ⟨_, _, _, List.mem_singleton.1 hmem⟩
  | capture env =>
    simp only [SenderSystem.ownEvents]
    split
    · exact hstepView
    next hactive =>
      refine hstepView.trans (TargetEvent.foldl_apply_of_not_active (fun event hmem ↦ ?_) hactive)
      simp only [SenderSystem.targetEvents, SenderManager.captureEvents] at hmem
      split at hmem
      · exact absurd hmem List.not_mem_nil
      split at hmem
      · exact absurd hmem List.not_mem_nil
      · exact Or.inr (Or.inl ⟨_, _, _, List.mem_singleton.1 hmem⟩)
      · exact Or.inr (Or.inr ⟨_, List.mem_singleton.1 hmem⟩)
      · exact Or.inr (Or.inr ⟨_, List.mem_singleton.1 hmem⟩)
  | _ => exact hstepView

/-- **A run does to a target that never fails what it means for this target by itself.** -/
theorem run_view_own {secsF64 : SecsF64} {format : WireFormat} {system final : SenderSystem}
    {inputs : List SenderInput} (h : system.manager.Independent) {deviceId : DeviceId}
    (hrun : Transition.run (SenderSystem.step secsF64 format) system inputs = some final)
    (hsound : Transition.Along (SenderSystem.step secsF64 format)
      (fun system _ ↦ ¬ system.manager.Failing deviceId) system inputs) :
    final.manager.view deviceId =
      (system.ownHistory secsF64 format deviceId inputs).foldl TargetEvent.apply
        (system.manager.view deviceId) := by
  induction inputs generalizing system with
  | nil =>
    obtain rfl := Option.some.inj hrun
    rfl
  | cons input inputs ih =>
    obtain ⟨next, hstep, hrun⟩ := Transition.run_cons.1 hrun
    rw [ih (step_independent h hstep) hrun (hsound.2 next hstep),
      step_view_own h hstep hsound.1, ← List.foldl_append]
    simp only [SenderSystem.ownHistory, hstep, Option.map_some, Option.getD_some]

/-! ### The order of the walk -/

namespace SenderManager

variable {manager next other : SenderManager} {env : ManagerEnv}

/-- Two managers that came of one by work on the collection differ by such work. -/
theorem Outside.of_common (h : Outside manager next) (h' : Outside manager other) :
    Outside next other := by
  rw [Outside] at h h' ⊢
  rw [h', h]

/-- The same manager, but for the last error and the record of what became of sessions. -/
structure SameUpToOrder (manager next : SenderManager) : Prop where
  outside : Outside manager next
  entries : ∀ deviceId, next.entryOf deviceId = manager.entryOf deviceId

/-- **A walk over the sessions does not depend on its order**, but for the error that is noted last. -/
theorem sameUpToOrder_forEachActive (h : manager.Keyed) (hwalked : manager.WalkedBy env)
    {order : List DeviceId} (hwalked' : manager.WalkedBy { env with order })
    {act : DeviceId → ManagedTargetSession → Bool × ManagedTargetSession}
    (hact : ∀ (deviceId : DeviceId) (session : ManagedTargetSession),
      session.SameSession (act deviceId session).2) :
    SameUpToOrder (manager.forEachActive env act) (manager.forEachActive { env with order } act) where
  outside := (outside_forEachActive env act manager).of_common (outside_forEachActive _ act manager)
  entries deviceId := (entryOf_forEachActive h hwalked' hact deviceId).trans
    (entryOf_forEachActive h hwalked hact deviceId).symm

/-- So a tick does not. -/
theorem sameUpToOrder_tickTargets (h : manager.Keyed) (hwalked : manager.WalkedBy env)
    {order : List DeviceId} (hwalked' : manager.WalkedBy { env with order }) :
    SameUpToOrder (manager.tickTargets env) (manager.tickTargets { env with order }) :=
  sameUpToOrder_forEachActive h hwalked hwalked'
    fun _ session ↦ ManagedTargetSession.sameSession_tick _ _ session

/-- Nor does the error of a capture. -/
theorem sameUpToOrder_failAllActiveTargets (hwalked : manager.WalkedBy env)
    {order : List DeviceId} (hwalked' : manager.WalkedBy { env with order }) (message : String) :
    SameUpToOrder (manager.failAllActiveTargets env message)
      (manager.failAllActiveTargets { env with order } message) where
  outside := (outside_failAllActiveTargets env message manager).of_common
    (outside_failAllActiveTargets _ message manager)
  entries deviceId := (entryOf_failAllActiveTargets hwalked' message deviceId).trans
    (entryOf_failAllActiveTargets hwalked message deviceId).symm

/-- Nor does fan-out. -/
theorem sameUpToOrder_captureAndFanOut (h : manager.Keyed) (hwalked : manager.WalkedBy env)
    {order : List DeviceId} (hwalked' : manager.WalkedBy { env with order }) :
    SameUpToOrder (manager.captureAndFanOut env) (manager.captureAndFanOut { env with order }) := by
  rcases hcapture : manager.capture with - | capture
  · simp only [captureAndFanOut, hcapture]
    exact ⟨.refl manager, fun _ ↦ rfl⟩
  have hfailed (message : String) :
      SameUpToOrder ((manager.setLastError (some message)).failAllActiveTargets env message)
        ((manager.setLastError (some message)).failAllActiveTargets { env with order } message) := by
    have htargets : (manager.setLastError (some message)).targets = manager.targets := rfl
    exact sameUpToOrder_failAllActiveTargets (walkedBy_of_targets htargets hwalked)
      (walkedBy_of_targets htargets hwalked') message
  rcases hframe : env.tryRecvFrame capture with error | - | frame
  · cases error with
    | captureEnded =>
      simp only [captureAndFanOut, hcapture, hframe]
      exact hfailed _
    | _ =>
      simp only [captureAndFanOut, hcapture, hframe]
      exact hfailed _
  · simp only [captureAndFanOut, hcapture, hframe]
    exact ⟨.refl manager, fun _ ↦ rfl⟩
  · have htargets := targets_pushToMirror env (manager.stamped env frame) manager
    simp only [captureAndFanOut, hcapture, hframe]
    exact sameUpToOrder_forEachActive
      (h.refreshed (refreshed_pushToMirror env (manager.stamped env frame) manager))
      (walkedBy_of_targets htargets hwalked) (walkedBy_of_targets htargets hwalked')
      fun deviceId session ↦ sameSession_fanOut env (manager.stamped env frame) deviceId session

/-- A captured frame is offered once to every open session. -/
theorem entryOf_captureAndFanOut (h : manager.Keyed) (hwalked : manager.WalkedBy env)
    {frame : FanoutAudioFrame} (hframe : manager.capturedFrame env = some frame)
    (deviceId : DeviceId) :
    (manager.captureAndFanOut env).entryOf deviceId = (manager.entryOf deviceId).map
      (TargetSessionEntry.actOn (ManagedTargetSession.offer (env.queue deviceId) frame)
        (env.writerJoined deviceId)) := by
  rcases hcapture : manager.capture with - | capture
  · simp only [capturedFrame, hcapture] at hframe
    cases hframe
  rcases hreceived : env.tryRecvFrame capture with error | - | received
  · simp only [capturedFrame, hcapture, hreceived] at hframe
    cases hframe
  · simp only [capturedFrame, hcapture, hreceived] at hframe
    cases hframe
  · simp only [capturedFrame, hcapture, hreceived, Option.map_some, Option.some.injEq] at hframe
    subst hframe
    have htargets := targets_pushToMirror env (manager.stamped env received) manager
    simp only [captureAndFanOut, hcapture, hreceived]
    refine (entryOf_forEachActive
      (h.refreshed (refreshed_pushToMirror env (manager.stamped env received) manager))
      (walkedBy_of_targets htargets hwalked)
      (fun deviceId session ↦ sameSession_fanOut env (manager.stamped env received) deviceId session)
      deviceId).trans ?_
    rw [entryOf, htargets]
    rfl

end SenderManager

/-- A frame is pushed once, whatever becomes of it. -/
theorem ManagedTargetSession.networkBranch_offer (env : QueueEnv) (frame : FanoutAudioFrame)
    (session : ManagedTargetSession) :
    (session.offer env frame).2.networkBranch = (session.networkBranch.push env frame).2 := by
  have hhealth (session : ManagedTargetSession) :
      session.refreshHealth.networkBranch = session.networkBranch := by
    unfold refreshHealth
    split <;> rfl
  unfold offer pushFrame
  rcases session.networkBranch.push env frame with ⟨error | outcome, networkBranch⟩
  · rfl
  · exact hhealth _

/-! ### Time stamps -/

/-- A frame that does not say at which time of day it was captured. -/
def FanoutAudioFrame.unstamped (frame : FanoutAudioFrame) : FanoutAudioFrame :=
  { frame with capturedAtUnixMs := 0 }

/-- A session, but for the time stamps of the frames in its queue. -/
def ManagedTargetSession.unstamped (session : ManagedTargetSession) : ManagedTargetSession :=
  session.relabel id FanoutAudioFrame.unstamped

/-- An entry, but for the time stamps of the frames in its queue. -/
def TargetSessionEntry.unstamped : TargetSessionEntry → TargetSessionEntry
  | .active session => .active session.unstamped
  | entry => entry

namespace TargetEvent

/-- An event, but for the time stamps of frames. -/
def unstamped : TargetEvent → TargetEvent
  | .connected session => .connected session.unstamped
  | .offered env frame writerJoined => .offered env frame.unstamped writerJoined
  | event => event

/-- What is done to a session without looking at time stamps is done to the entry. -/
theorem actOn_unstamped {act act' : ManagedTargetSession → Bool × ManagedTargetSession}
    (hact : ∀ session, act' session.unstamped = ((act session).1, (act session).2.unstamped))
    (writerJoined : Bool) (entry : TargetSessionEntry) :
    entry.unstamped.actOn act' writerJoined = (entry.actOn act writerJoined).unstamped := by
  cases entry with
  | pending queued => rfl
  | failed snapshot => rfl
  | active session =>
    simp only [TargetSessionEntry.unstamped, TargetSessionEntry.actOn, TargetSessionEntry.settled,
      hact session]
    split
    · rfl
    · exact congrArg TargetSessionEntry.failed
        (ManagedTargetSession.shutdownImmediate_relabel _ _ writerJoined (act session).2)

/-- **No event looks at the time stamps** of the frames. -/
theorem apply_unstamped (entry : Option TargetSessionEntry) (event : TargetEvent) :
    apply (entry.map TargetSessionEntry.unstamped) event.unstamped =
      (apply entry event).map TargetSessionEntry.unstamped := by
  rcases entry with - | entry
  · cases event <;> rfl
  cases event with
  | queued now target =>
    have hstate : entry.unstamped.state = entry.state := by cases entry <;> rfl
    simp only [apply, unstamped, Option.map_some, Option.any_some, hstate]
    split <;> rfl
  | removed => rfl
  | connected session => rfl
  | started now =>
    refine congrArg some ?_
    cases entry with
    | pending queued =>
      by_cases hdue : (TargetSessionEntry.pending queued).isDue now = true
      · simp only [TargetSessionEntry.unstamped, TargetSessionEntry.started, hdue, if_true]
      · simp only [TargetSessionEntry.unstamped, TargetSessionEntry.started, hdue, Bool.false_eq_true,
          if_false]
    | active session => rfl
    | failed snapshot => rfl
  | failed now nowUnixMs failure =>
    refine congrArg some ?_
    simp only [TargetSessionEntry.afterFailure]
    split
    · cases entry <;> rfl
    · rfl
  | ticked interval env writerJoined =>
    exact congrArg some (actOn_unstamped
      (ManagedTargetSession.tick_relabel id FanoutAudioFrame.unstamped interval env) writerJoined entry)
  | offered env frame writerJoined =>
    exact congrArg some (actOn_unstamped
      (ManagedTargetSession.offer_relabel id FanoutAudioFrame.unstamped env frame) writerJoined entry)
  | errored message =>
    refine congrArg some ?_
    cases entry <;> rfl

/-- Histories that differ in time stamps only lead to entries that differ in time stamps only. -/
theorem foldl_apply_unstamped (events : List TargetEvent) (entry : Option TargetSessionEntry) :
    (events.map unstamped).foldl apply (entry.map TargetSessionEntry.unstamped) =
      (events.foldl apply entry).map TargetSessionEntry.unstamped := by
  rw [List.foldl_map]
  exact List.foldl_hom (Option.map TargetSessionEntry.unstamped) apply_unstamped

end TargetEvent

/-- **Fan-out is complete and failures are isolated.** In every reachable state and for every order of
the walk:

* A captured frame is pushed once into the queue of every open session; a session whose queue refuses
  it is replaced by the snapshot of its failure.
* Two runs in which a target that never fails sees the same by itself — its commands, its connect
  results, its ticks, the frames it is offered with their time stamps — leave it with the same entry,
  whatever happens to the other targets. If the frames differ in their `captured_at_unix_ms` only, as they
  do where the capture starts at another time, the entries differ in the time stamps of the queued frames
  only.
* Ticks and fan-out do not depend on the order of the walk, except for the last error. -/
theorem fan_out_isolation (secsF64 : SecsF64) (format : WireFormat) (setup : SenderSetup)
    (now : Instant) (target : SenderTarget) (inputs : List SenderInput) (final : SenderSystem)
    (hrun : Transition.run (SenderSystem.step secsF64 format)
      (SenderSystem.start secsF64 setup now target) inputs = some final) :
    (∀ env frame, final.manager.WalkedBy env → final.manager.capturedFrame env = some frame →
      ∀ deviceId session, final.manager.entryOf deviceId = some (.active session) →
        (final.manager.captureAndFanOut env).entryOf deviceId =
            some (TargetSessionEntry.settled (env.writerJoined deviceId)
              (session.offer (env.queue deviceId) frame)) ∧
          (session.offer (env.queue deviceId) frame).2.networkBranch =
            (session.networkBranch.push (env.queue deviceId) frame).2) ∧
    (∀ (deviceId : DeviceId) (inputs' : List SenderInput) (final' : SenderSystem),
      Transition.run (SenderSystem.step secsF64 format)
        (SenderSystem.start secsF64 setup now target) inputs' = some final' →
      (∀ inputs ∈ [inputs, inputs'], Transition.Along (SenderSystem.step secsF64 format)
        (fun system _ ↦ ¬ system.manager.Failing deviceId)
        (SenderSystem.start secsF64 setup now target) inputs) →
      (SenderSystem.start secsF64 setup now target).ownHistory secsF64 format deviceId inputs =
        (SenderSystem.start secsF64 setup now target).ownHistory secsF64 format deviceId inputs' →
      final.manager.view deviceId = final'.manager.view deviceId) ∧
    (∀ (deviceId : DeviceId) (inputs' : List SenderInput) (final' : SenderSystem),
      Transition.run (SenderSystem.step secsF64 format)
        (SenderSystem.start secsF64 setup now target) inputs' = some final' →
      (∀ inputs ∈ [inputs, inputs'], Transition.Along (SenderSystem.step secsF64 format)
        (fun system _ ↦ ¬ system.manager.Failing deviceId)
        (SenderSystem.start secsF64 setup now target) inputs) →
      ((SenderSystem.start secsF64 setup now target).ownHistory secsF64 format deviceId inputs).map
          TargetEvent.unstamped =
        ((SenderSystem.start secsF64 setup now target).ownHistory secsF64 format deviceId inputs').map
          TargetEvent.unstamped →
      (final.manager.view deviceId).map TargetSessionEntry.unstamped =
        (final'.manager.view deviceId).map TargetSessionEntry.unstamped) ∧
    (∀ env order, final.manager.WalkedBy env → final.manager.WalkedBy { env with order } →
      SenderManager.SameUpToOrder (final.manager.tickTargets env)
          (final.manager.tickTargets { env with order }) ∧
        SenderManager.SameUpToOrder (final.manager.captureAndFanOut env)
          (final.manager.captureAndFanOut { env with order })) := by
  have hstart := start_independent secsF64 setup now target
  have hfinal : final.manager.Independent :=
    @Transition.run_invariant _ _ _ (fun system ↦ system.manager.Independent)
      (fun _ _ _ ↦ step_independent) _ _ _ hstart hrun
  refine ⟨fun env frame hwalked hframe deviceId session hentry ↦ ⟨?_, ?_⟩,
    fun deviceId inputs' final' hrun' hsound hhistory ↦ ?_,
    fun deviceId inputs' final' hrun' hsound hhistory ↦ ?_, fun env order hwalked hwalked' ↦ ⟨?_, ?_⟩⟩
  · rw [SenderManager.entryOf_captureAndFanOut hfinal.keyed hwalked hframe, hentry]
    rfl
  · exact ManagedTargetSession.networkBranch_offer _ frame session
  · rw [run_view_own hstart hrun (hsound inputs List.mem_cons_self),
      run_view_own hstart hrun' (hsound inputs' (List.mem_cons_of_mem _ List.mem_cons_self)), hhistory]
  · rw [run_view_own hstart hrun (hsound inputs List.mem_cons_self),
      run_view_own hstart hrun' (hsound inputs' (List.mem_cons_of_mem _ List.mem_cons_self)),
      ← TargetEvent.foldl_apply_unstamped, ← TargetEvent.foldl_apply_unstamped, hhistory]
  · exact SenderManager.sameUpToOrder_tickTargets hfinal.keyed hwalked hwalked'
  · exact SenderManager.sameUpToOrder_captureAndFanOut hfinal.keyed hwalked hwalked'

/-! ### Two targets -/

namespace Sample

def secondId : DeviceId := ⟨"receiver-2"⟩

def secondTarget : SenderTarget := ⟨secondId, "second", ⟨secondId, ⟨.v4 0x7f000001, 2⟩⟩⟩

/-- What an attempt of this session says to its receiver. -/
def sessionHello (sessionId : String) : HelloMessage := { senderHello with sessionId }

def sessionHelloJson (sessionId : String) : List String :=
  ["\x7b\"protocol_version\":1,", "\"session_id\":\"", sessionId, "\",",
    "\"sender_name\":\"sender\",", "\"supported_codecs\":[\"RawPcm\"],",
    "\"desired_codec\":\"RawPcm\","] ++ streamJson ++
  ["\"quality\":\"Balanced\",", "\"target_latency_ms\":150,", "\"keepalive_interval_ms\":1000\x7d"]

def sessionAcceptJson (sessionId : String) : List String :=
  ["\x7b\"protocol_version\":1,", "\"session_id\":\"", sessionId, "\",",
    "\"receiver_name\":\"receiver\",", "\"codec\":\"RawPcm\","] ++ streamJson ++
  ["\"keepalive_interval_ms\":1000,", "\"receiver_latency_ms\":150\x7d"]

def sessionIds : List String := ["sender-0-receiver-1-0", "sender-0-receiver-2-0"]

def twoSessionsFormat : WireFormat :=
  { senderFormat with
    hello := .table (sessionIds.map fun sessionId ↦
      (sessionHello sessionId, sessionHelloJson sessionId))
    accept := .table (sessionIds.map fun sessionId ↦
      (acceptFor args (sessionHello sessionId), sessionAcceptJson sessionId)) }

/-- The receiver accepts this session. -/
def acceptedAs (sessionId : String) : ConnectEnv :=
  { accepted with
    reader := ReadScript.ofList
      (encodeFrame ⟨.accept, SerdeJson.asciiBytes (sessionAcceptJson sessionId), []⟩) }

/-- The collection holds both targets. -/
def bothEnv : ManagerEnv := { order := [secondId, receiverId] }

/-- Ten milliseconds of silence. -/
def silence : AudioFrame := AudioFrame.fromPayload 0 10000000 {} [0, 0, 0, 0]

/-- Two targets are connected, the second one first, and a frame is captured. -/
def bothConnected (second : ConnectEnv) : List SenderInput :=
  [.command {} (.addTarget secondTarget), .noCommand, .pendingTargets bothEnv,
    .connected ⟨0, secondTarget, 1, connectRequest⟩ second,
    .connected ⟨1, senderTarget 1, 1, connectRequest⟩ (acceptedAs "sender-0-receiver-1-0"),
    .connectResult { bothEnv with nowUnixMs := 5 }, .connectResult { bothEnv with nowUnixMs := 6 },
    .noConnectResult, .mirrorEvents bothEnv, .tick bothEnv,
    .capture { bothEnv with tryRecvFrame := fun _ ↦ .ok (some silence) }]

/-- What the queue of the first target holds at the end of such a run. -/
def firstQueue (second : ConnectEnv) : Option (Option (List FanoutAudioFrame)) :=
  (Transition.run (SenderSystem.step secsF64 twoSessionsFormat)
    (SenderSystem.start secsF64 senderSetup 0 (senderTarget 1)) (bothConnected second)).map
    fun system ↦ (system.manager.targets.activeSession receiverId).map fun session ↦
      session.networkBranch.items

end Sample

/-- Both targets are open in the end, and so both are offered what is captured next. -/
theorem fan_out_isolation_two_targets :
    ∃ (final : SenderSystem) (session : ManagedTargetSession),
      Transition.run (SenderSystem.step Sample.secsF64 Sample.twoSessionsFormat)
          (SenderSystem.start Sample.secsF64 Sample.senderSetup 0 (Sample.senderTarget 1))
          (Sample.bothConnected (Sample.acceptedAs "sender-0-receiver-2-0")) = some final ∧
        final.manager.entryOf Sample.secondId = some (.active session) ∧
        ∀ env frame, final.manager.WalkedBy env →
          final.manager.capturedFrame env = some frame →
          (final.manager.captureAndFanOut env).entryOf Sample.secondId =
            some (TargetSessionEntry.settled (env.writerJoined Sample.secondId)
              (session.offer (env.queue Sample.secondId) frame)) := by
  have hrun : (Transition.run (SenderSystem.step Sample.secsF64 Sample.twoSessionsFormat)
      (SenderSystem.start Sample.secsF64 Sample.senderSetup 0 (Sample.senderTarget 1))
      (Sample.bothConnected (Sample.acceptedAs "sender-0-receiver-2-0"))).map (fun system ↦
        (system.manager.targets.activeSession Sample.secondId).isSome) = some true := by
    decide +kernel
  obtain ⟨final, hrun, hactive⟩ := Option.map_eq_some_iff.1 hrun
  obtain ⟨session, hsession⟩ := Option.isSome_iff_exists.1 hactive
  have hentry : final.manager.entryOf Sample.secondId = some (.active session) :=
    TargetSessionCollection.activeSession_eq_some.1 hsession
  obtain ⟨hoffered, -, -, -⟩ := fan_out_isolation _ _ _ _ _ _ final hrun
  exact ⟨final, session, hrun, hentry, fun env frame hwalked hframe ↦
    (hoffered env frame hwalked hframe _ session hentry).1⟩

/-- **A refused target shifts the time stamps of another one.** The two runs differ only in what the
second target answers. Where it accepts it is the one that starts the capture, at 5 ms, and otherwise
the first target does, at 6 ms; the frame that is then queued for the first target carries the time the
capture started at. -/
theorem refused_target_shifts_time_stamps :
    Sample.firstQueue (Sample.acceptedAs "sender-0-receiver-2-0") =
        some (some [⟨0, 10, 15, [0, 0, 0, 0]⟩]) ∧
      Sample.firstQueue Sample.refused = some (some [⟨0, 10, 16, [0, 0, 0, 0]⟩]) := by
  decide +kernel

end SynchroSonic
