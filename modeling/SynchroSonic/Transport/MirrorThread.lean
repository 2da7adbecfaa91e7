import SynchroSonic.Machine.Slot
import SynchroSonic.Transport.MirrorWorker

/-!
# The sinks of the mirror's thread

`local_mirror_worker_loop` by itself, with its two channels, the sinks it opens and the frames it writes
into them. What others put into the channels, what the producer takes out of the full queue, and when
the channels are given up, is left open; so are all answers of the playback engine.

A `Start` is handled in two places: the inner loop stops the sink that is there, the wait for a control
does not. **It need not** (`mirror_owns_one_sink`): the thread only waits when it is not enabled, and it
has a sink exactly when it is.
-/

namespace SynchroSonic

/-- The variables of `local_mirror_worker_loop`, its channels, and what became of them so far. -/
structure MirrorThread where
  phase : MirrorPhase := .draining
  enabled : Bool := false
  /-- The variable `sink`, and the sinks that are open. They are numbered. -/
  sink : Slot PlaybackSink := {}
  /-- The reports it is about to send, in order. -/
  reports : List LocalMirrorEvent := []
  /-- The controls on their way, oldest first. -/
  controls : List LocalMirrorControl := []
  /-- The frames in the branch's queue, oldest first. -/
  frames : List FanoutAudioFrame := []
  controlsOpen : Bool := true
  framesOpen : Bool := true
  /-- How many sinks were opened. -/
  opened : ℕ := 0
  /-- The frames a sink has taken. -/
  written : List FanoutAudioFrame := []
  /-- The reports that were sent. -/
  events : List LocalMirrorEvent := []
  deriving DecidableEq, Repr

/-- What happens next, to the channels or to the thread, with the answers of the playback engine. -/
inductive MirrorThreadInput
  | send (control : LocalMirrorControl)
  | push (frame : FanoutAudioFrame)
  /-- The producer makes room in the queue. -/
  | evict
  | hangUpControls
  | hangUpFrames
  /-- A report goes into the channel. -/
  | report
  | control (stopped : Except AudioError Unit)
  /-- It finds no control, or waits for one in vain. -/
  | noControl
  /-- `start_stream` returns. -/
  | started (result : Except AudioError Unit)
  | frame (written : Except AudioError Unit)
  | noFrame
  /-- It waits at a channel that was given up. -/
  | disconnected
  deriving DecidableEq, Repr

/-- The bytes a report says were played. -/
def LocalMirrorEvent.playedBytes : LocalMirrorEvent → Option ℕ
  | .played bytes => some bytes
  | _ => none

namespace MirrorThread

/-- The loop is left: what is in its variables is dropped. -/
def returned (thread : MirrorThread) : MirrorThread :=
  { thread with
    phase := .ended
    enabled := false
    sink := thread.sink.take
    reports := [] }

/-- A control found by the inner loop. -/
def drained (stopped : Except AudioError Unit) (thread : MirrorThread) :
    LocalMirrorControl → MirrorThread
  | .start request => { thread with
      phase := .starting request false
      sink := thread.sink.take }
  | .stop =>
    let failure :=
      match stopped with
      | .error error => if thread.sink.held.isSome then [.error error.display] else []
      | .ok () => []
    { thread with
      phase := .draining
      enabled := false
      frames := []
      sink := thread.sink.take
      reports := failure ++ [.stateChanged .disabled] }
  | .shutdown => thread.returned

/-- A control the thread waited for. -/
def awaited (thread : MirrorThread) : LocalMirrorControl → MirrorThread
  | .start request => { thread with phase := .starting request true }
  | .stop => { thread with
      phase := .draining
      reports := [.stateChanged .disabled] }
  | .shutdown => thread.returned

/-- `start_stream` has returned. -/
def streamStarted (backendName : String) (request : PlaybackStartRequest) (waited : Bool)
    (result : Except AudioError Unit) (thread : MirrorThread) : MirrorThread :=
  match result with
  | .ok () => { thread with
      phase := .draining
      enabled := true
      sink := thread.sink.put ⟨thread.opened⟩
      opened := thread.opened + 1
      reports := [.started backendName request.targetId, .stateChanged .mirroring] }
  | .error error => { thread with
      phase := .draining
      -- the waiting arm of the source does not assign `enabled`
      enabled := if waited then thread.enabled else false
      frames := []
      reports := [.error error.display] }

/-- A frame is played. -/
def played (frame : FanoutAudioFrame) (written : Except AudioError Unit) (thread : MirrorThread) :
    MirrorThread :=
  if thread.sink.held.isSome then
    match written with
    | .ok () => { thread with
        phase := .draining
        written := thread.written ++ [frame]
        reports := [.played frame.payload.length] }
    | .error error => { thread with
        phase := .draining
        enabled := false
        frames := []
        sink := thread.sink.take
        reports := [.error error.display] }
  else { thread with
    phase := .draining
    enabled := false
    frames := []
    reports := [.error "local mirror sink was unavailable during playback"] }

/-- What the thread does once its reports are sent. -/
def act (backendName : String) (thread : MirrorThread) : MirrorThreadInput → Option MirrorThread
  | .control stopped =>
    match thread.phase, thread.controls with
    | .draining, control :: controls => some (({ thread with controls }).drained stopped control)
    | .waiting, control :: controls => some (({ thread with controls }).awaited control)
    | _, _ => none
  | .noControl =>
    match thread.phase, thread.controls with
    | .draining, [] => some { thread with phase := if thread.enabled then .playing else .waiting }
    | .waiting, [] => some { thread with phase := .draining }
    | _, _ => none
  | .started result =>
    match thread.phase with
    | .starting request waited => some (thread.streamStarted backendName request waited result)
    | _ => none
  | .frame written =>
    match thread.phase, thread.frames with
    | .playing, frame :: frames => some (({ thread with frames }).played frame written)
    | _, _ => none
  | .noFrame =>
    match thread.phase, thread.frames with
    | .playing, [] => some { thread with phase := .draining }
    | _, _ => none
  | .disconnected =>
    if (thread.phase = .waiting ∧ thread.controls = [] ∧ thread.controlsOpen = false) ∨
        (thread.phase = .playing ∧ thread.frames = [] ∧ thread.framesOpen = false) then
      some thread.returned
    else none
  | .send _ | .push _ | .evict | .hangUpControls | .hangUpFrames | .report => none

/-- One step. -/
def step (backendName : String) (thread : MirrorThread) : MirrorThreadInput → Option MirrorThread
  | .send control =>
    if thread.controlsOpen then some { thread with controls := thread.controls ++ [control] }
    else none
  | .push frame =>
    if thread.framesOpen then some { thread with frames := thread.frames ++ [frame] } else none
  | .evict => some { thread with frames := thread.frames.tail }
  | .hangUpControls => some { thread with controlsOpen := false }
  | .hangUpFrames => some { thread with framesOpen := false }
  | .report =>
    match thread.reports with
    | report :: reports => some { thread with reports, events := thread.events ++ [report] }
    | [] => none
  | input => if thread.reports = [] then thread.act backendName input else none

/-! ### The thread of the mirrored sender -/

/-- The thread without its channels and without the identity of its sink. -/
def worker (thread : MirrorThread) : MirrorWorker where
  phase := thread.phase
  enabled := thread.enabled
  sink := thread.sink.held.isSome
  reports := thread.reports

variable {thread next : MirrorThread} {backendName : String}

/-- The mirrored sender's thread takes a control in its inner loop as this one does. -/
theorem worker_drained (stopped : Except AudioError Unit) (control : LocalMirrorControl) :
    (thread.drained stopped control).worker = thread.worker.drained stopped control := by
  cases control <;> rfl

/-- So it does while it waits. -/
theorem worker_awaited (control : LocalMirrorControl) :
    (thread.awaited control).worker = thread.worker.awaited control := by
  cases control <;> rfl

/-- A sink opens for both or for neither. -/
theorem worker_streamStarted (request : PlaybackStartRequest) (waited : Bool)
    (result : Except AudioError Unit) :
    (thread.streamStarted backendName request waited result).worker =
      thread.worker.opened backendName request waited result := by
  cases result <;> rfl

/-- A frame that is played is reported by both. -/
theorem worker_played (frame : FanoutAudioFrame) (written : Except AudioError Unit) :
    (thread.played frame written).worker = thread.worker.played frame.payload.length written := by
  unfold played MirrorWorker.played
  show MirrorThread.worker (if thread.worker.sink = true then _ else _) = _
  split
  · cases written <;> rfl
  · rfl

/-! ### The sink and the flag -/

/-- What the phase says of the sink and the flag `enabled`. -/
def Owns (thread : MirrorThread) : Prop :=
  match thread.phase with
  | .draining => thread.enabled = thread.sink.held.isSome
  | .waiting => thread.enabled = false ∧ thread.sink.held = none
  | .playing => thread.enabled = true ∧ thread.sink.held.isSome = true
  | .starting _ waited => thread.sink.held = none ∧ (waited = true → thread.enabled = false)
  | .ended => thread.sink.held = none

/-- What always holds of the thread. -/
structure Sound (thread : MirrorThread) : Prop where
  owns : thread.Owns
  sole : thread.sink.Sole
  played : (thread.events ++ thread.reports).filterMap LocalMirrorEvent.playedBytes =
    thread.written.map fun frame ↦ frame.payload.length

/-- A step that plays nothing. -/
theorem Sound.of_silent (h : thread.Sound) (hreports : thread.reports = [])
    (hevents : next.events = thread.events) (hwritten : next.written = thread.written)
    (hsilent : next.reports.filterMap LocalMirrorEvent.playedBytes = []) (howns : next.Owns)
    (hsole : next.sink.Sole) : next.Sound := by
  refine ⟨howns, hsole, ?_⟩
  have hplayed := h.played
  rw [hreports, List.append_nil] at hplayed
  rw [hevents, hwritten, List.filterMap_append, hsilent, List.append_nil, hplayed]

theorem Sound.returned (h : thread.Sound) (hreports : thread.reports = []) :
    thread.returned.Sound :=
  h.of_silent hreports rfl rfl rfl rfl h.sole.take

/-- The inner loop leaves no sink behind that it does not know of. -/
theorem Sound.drained (h : thread.Sound) (hreports : thread.reports = [])
    (stopped : Except AudioError Unit) (control : LocalMirrorControl) :
    (thread.drained stopped control).Sound := by
  cases control with
  | start request =>
    refine h.of_silent hreports rfl rfl ?_ ⟨rfl, fun hwaited ↦ ?_⟩ h.sole.take
    · show thread.reports.filterMap _ = []
      rw [hreports]
      rfl
    · cases hwaited
  | stop =>
    refine h.of_silent hreports rfl rfl ?_ rfl h.sole.take
    unfold MirrorThread.drained
    cases stopped with
    | ok stopped => rfl
    | error error =>
      dsimp only
      split <;> rfl
  | shutdown => exact h.returned hreports

/-- While the thread waits there is no sink to be stopped. -/
theorem Sound.awaited (h : thread.Sound) (hphase : thread.phase = .waiting)
    (hreports : thread.reports = []) (control : LocalMirrorControl) :
    (thread.awaited control).Sound := by
  have howns := h.owns
  rw [Owns, hphase] at howns
  obtain ⟨hdisabled, hnone⟩ := howns
  cases control with
  | start request =>
    refine h.of_silent hreports rfl rfl ?_ ⟨hnone, fun _ ↦ hdisabled⟩ h.sole
    show thread.reports.filterMap _ = []
    rw [hreports]
    rfl
  | stop =>
    refine h.of_silent hreports rfl rfl rfl ?_ h.sole
    show thread.enabled = thread.sink.held.isSome
    rw [hdisabled, hnone]
    rfl
  | shutdown => exact h.returned hreports

/-- A sink is put where there was none. -/
theorem Sound.streamStarted (h : thread.Sound) {request : PlaybackStartRequest} {waited : Bool}
    (hphase : thread.phase = .starting request waited) (hreports : thread.reports = [])
    (result : Except AudioError Unit) :
    (thread.streamStarted backendName request waited result).Sound := by
  have howns := h.owns
  rw [Owns, hphase] at howns
  obtain ⟨hnone, hwaited⟩ := howns
  cases result with
  | ok started => exact h.of_silent hreports rfl rfl rfl rfl (h.sole.put hnone _)
  | error error =>
    refine h.of_silent hreports rfl rfl rfl ?_ h.sole
    show (if waited then thread.enabled else false) = thread.sink.held.isSome
    rw [hnone]
    cases waited with
    | false => rfl
    | true => exact hwaited rfl

/-- A frame that is played is reported, and no other. -/
theorem Sound.frame (h : thread.Sound) (hphase : thread.phase = .playing)
    (hreports : thread.reports = []) (frame : FanoutAudioFrame) (written : Except AudioError Unit) :
    (thread.played frame written).Sound := by
  have howns := h.owns
  rw [Owns, hphase] at howns
  obtain ⟨henabled, hsome⟩ := howns
  unfold MirrorThread.played
  rw [if_pos hsome]
  cases written with
  | error error => exact h.of_silent hreports rfl rfl rfl rfl h.sole.take
  | ok written =>
    refine ⟨henabled.trans hsome.symm, h.sole, ?_⟩
    have hplayed := h.played
    rw [hreports, List.append_nil] at hplayed
    show (thread.events ++ [LocalMirrorEvent.played frame.payload.length]).filterMap _ =
      (thread.written ++ [frame]).map _
    rw [List.filterMap_append, List.map_append, hplayed]
    rfl

/-- **What the thread does keeps it sound.** -/
theorem Sound.act {input : MirrorThreadInput} (h : thread.Sound) (hreports : thread.reports = [])
    (hact : thread.act backendName input = some next) : next.Sound := by
  have howns := h.owns
  cases input with
  | control stopped =>
    simp only [MirrorThread.act] at hact
    split at hact
    next control controls hphase hcontrols =>
      obtain rfl := Option.some.inj hact
      have hthread : ({ thread with controls }).Sound := ⟨h.owns, h.sole, h.played⟩
      -- the control is one of those drained between two frames
      exact hthread.drained hreports stopped control
    next control controls hphase hcontrols =>
      obtain rfl := Option.some.inj hact
      have hthread : ({ thread with controls }).Sound := ⟨h.owns, h.sole, h.played⟩
      -- the control is the one a disabled thread waits for
      exact hthread.awaited hphase hreports control
    · cases hact
  | noControl =>
    simp only [MirrorThread.act] at hact
    split at hact
    next hphase hcontrols =>
      obtain rfl := Option.some.inj hact
      -- the thread looks at its frames while it is enabled, and otherwise waits for a control
      rw [Owns, hphase] at howns
      refine ⟨?_, h.sole, h.played⟩
      cases henabled : thread.enabled with
      | true => exact ⟨rfl, howns.symm.trans henabled⟩
      | false => exact ⟨rfl, Option.isNone_iff_eq_none.1
          (Option.isSome_eq_false_iff.1 (howns.symm.trans henabled))⟩
    next hphase hcontrols =>
      obtain rfl := Option.some.inj hact
      rw [Owns, hphase] at howns
      refine ⟨?_, h.sole, h.played⟩
      show thread.enabled = thread.sink.held.isSome
      rw [howns.1, howns.2]
      rfl
    · cases hact
  | started result =>
    simp only [MirrorThread.act] at hact
    split at hact
    next request waited hphase =>
      obtain rfl := Option.some.inj hact
      exact h.streamStarted hphase hreports result
    · cases hact
  | frame written =>
    simp only [MirrorThread.act] at hact
    split at hact
    next frame frames hphase hframes =>
      obtain rfl := Option.some.inj hact
      have hthread : ({ thread with frames }).Sound := ⟨h.owns, h.sole, h.played⟩
      exact hthread.frame hphase hreports frame written
    · cases hact
  | noFrame =>
    simp only [MirrorThread.act] at hact
    split at hact
    next hphase hframes =>
      obtain rfl := Option.some.inj hact
      rw [Owns, hphase] at howns
      exact ⟨howns.1.trans howns.2.symm, h.sole, h.played⟩
    · cases hact
  | disconnected =>
    obtain ⟨-, hnext⟩ := Option.ite_none_right_eq_some.1 hact
    obtain rfl := Option.some.inj hnext
    exact h.returned hreports
  | _ => cases hact

theorem Sound.step {input : MirrorThreadInput} (h : thread.Sound)
    (hstep : thread.step backendName input = some next) : next.Sound := by
  cases input with
  | send control =>
    obtain ⟨-, hnext⟩ := Option.ite_none_right_eq_some.1 hstep
    obtain rfl := Option.some.inj hnext
    exact ⟨h.owns, h.sole, h.played⟩
  | push frame =>
    obtain ⟨-, hnext⟩ := Option.ite_none_right_eq_some.1 hstep
    obtain rfl := Option.some.inj hnext
    exact ⟨h.owns, h.sole, h.played⟩
  | evict =>
    obtain rfl := Option.some.inj hstep
    exact ⟨h.owns, h.sole, h.played⟩
  | hangUpControls =>
    obtain rfl := Option.some.inj hstep
    exact ⟨h.owns, h.sole, h.played⟩
  | hangUpFrames =>
    obtain rfl := Option.some.inj hstep
    exact ⟨h.owns, h.sole, h.played⟩
  | report =>
    simp only [MirrorThread.step] at hstep
    split at hstep
    next report reports hreports =>
      obtain rfl := Option.some.inj hstep
      refine ⟨h.owns, h.sole, ?_⟩
      -- the report only goes from one list to the other
      have hplayed := h.played
      rw [hreports] at hplayed
      show ((thread.events ++ [report]) ++ reports).filterMap _ = thread.written.map _
      rwa [List.append_assoc]
    · cases hstep
  | _ =>
    obtain ⟨hreports, hact⟩ := Option.ite_none_right_eq_some.1 hstep
    exact h.act hreports hact

theorem sound_start : ({} : MirrorThread).Sound := ⟨rfl, Slot.sole_empty, rfl⟩

/-- **The mirror owns at most one sink, and reports what it played.** In every run of the thread, with
whatever the channels bring and the playback engine answers:

* at the head of the loop, `enabled` says whether there is a sink;
* while it waits for a frame there is a sink, and while it waits for a control there is none;
* while a sink is opened, no other is open, and more than one was never open at once;
* the reports of played bytes are those of the frames that were written, in order. -/
theorem mirror_owns_one_sink (backendName : String) (inputs : List MirrorThreadInput)
    (thread : MirrorThread)
    (hrun : Transition.run (MirrorThread.step backendName) {} inputs = some thread) :
    (thread.phase = .draining → (thread.enabled = true ↔ thread.sink.held.isSome = true)) ∧
      (thread.phase = .playing → thread.sink.held.isSome = true) ∧
      (thread.phase = .waiting → thread.sink.held = none) ∧
      (∀ request waited, thread.phase = .starting request waited → thread.sink.opened = []) ∧
      thread.sink.opened = thread.sink.held.toList ∧
      thread.sink.peak ≤ 1 ∧
      (thread.events ++ thread.reports).filterMap LocalMirrorEvent.playedBytes =
        thread.written.map fun frame ↦ frame.payload.length := by
  have hsound : thread.Sound :=
    Transition.run_invariant (fun _ _ _ h hstep ↦ h.step hstep) sound_start hrun
  have howns := hsound.owns
  refine ⟨fun hphase ↦ ?_, fun hphase ↦ ?_, fun hphase ↦ ?_, fun request waited hphase ↦ ?_,
    hsound.sole.opened, hsound.sole.peak, hsound.played⟩
  · rw [Owns, hphase] at howns
    rw [howns]
  · rw [Owns, hphase] at howns
    exact howns.2
  · rw [Owns, hphase] at howns
    exact howns.2
  · rw [Owns, hphase] at howns
    exact hsound.sole.opened_of_free howns.1

/-- The mirror is started twice, from the wait and from the inner loop, plays a frame of four bytes and
fails at the next. -/
def restartedMirror : List MirrorThreadInput :=
  let request : PlaybackStartRequest := ⟨Sample.connectRequest.streamConfig, none, 150⟩
  let frame : FanoutAudioFrame := ⟨0, 0, 0, [0, 0, 0, 0]⟩
  [.noControl, .send (.start request), .control (.ok ()), .started (.ok ()), .report, .report,
    .send (.start request), .control (.ok ()), .started (.ok ()), .report, .report, .push frame,
    .push frame, .noControl, .frame (.ok ()), .report, .noControl, .frame (.error .captureEnded),
    .report]

/-- Two sinks were opened, one after the other, and one frame was played. -/
theorem mirror_owns_one_sink_restarted :
    ∃ thread, Transition.run (MirrorThread.step "mock") {} restartedMirror = some thread ∧
      thread.opened = 2 ∧ thread.written.length = 1 ∧ thread.sink.peak ≤ 1 ∧
      (thread.events ++ thread.reports).filterMap LocalMirrorEvent.playedBytes =
        thread.written.map fun frame ↦ frame.payload.length := by
  have hrun : (Transition.run (MirrorThread.step "mock") {} restartedMirror).map
      (fun thread ↦ (thread.opened, thread.written.length)) = some (2, 1) := by decide +kernel
  obtain ⟨thread, hrun, hthread⟩ := Option.map_eq_some_iff.1 hrun
  obtain ⟨hopened, hwritten⟩ := Prod.mk.inj hthread
  obtain ⟨-, -, -, -, -, hpeak, hplayed⟩ := mirror_owns_one_sink _ _ _ hrun
  exact ⟨thread, hrun, hopened, hwritten, hpeak, hplayed⟩

end MirrorThread

end SynchroSonic
