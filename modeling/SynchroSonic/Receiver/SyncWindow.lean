import SynchroSonic.Receiver.PacketLedger

/-!
# Playing packets inside their window

When a packet is due follows from the first packet of the sync window it arrived in. The worker keeps
one anchor for all of its packets; `AnchoredWorker` runs it beside a ledger in which every queued
packet carries the anchor of its own window.

A window is only ever closed with an empty buffer (`WindowStep`), so that the two agree: no packet is
scheduled against the anchor of another window. What the drain loop plays and discards is then played
and discarded by the packet's own due time (`AnchoredWorker.played_inside_window`). Nothing is asked
of the clock, not even that it is monotone.

The due time is a 64-bit saturating sum. Deadlines are spaced like the capture times as long as it does
not saturate, and not beyond.
-/

namespace SynchroSonic

/-- The moment a packet that arrived in the window of `anchor` is due: the capture time on the sender's
clock since the anchor, and the buffer target. The sum stays below `2 ^ 64`. -/
def SyncClock.due (profile : ReceiverLatencyProfile) (packet : ReceiverAudioPacket)
    (anchor : SyncClock) : Instant :=
  anchor.anchorLocalInstant + Duration.fromMillis
    (min (packet.capturedAtMs.toNat - anchor.anchorSenderTimestampMs.toNat
      + profile.targetBufferMs.toNat) (2 ^ 64 - 1))

/-- **Due times are spaced like capture times**, from the anchor on and as long as the sum does not
saturate. -/
theorem SyncClock.due_spaced {profile : ReceiverLatencyProfile} {first second : ReceiverAudioPacket}
    {anchor : SyncClock} (hanchor : anchor.anchorSenderTimestampMs ≤ first.capturedAtMs)
    (horder : first.capturedAtMs ≤ second.capturedAtMs)
    (hfits : second.capturedAtMs.toNat - anchor.anchorSenderTimestampMs.toNat
      + profile.targetBufferMs.toNat ≤ 2 ^ 64 - 1) :
    anchor.due profile second = anchor.due profile first
      + Duration.fromMillis (second.capturedAtMs.toNat - first.capturedAtMs.toNat) := by
  have hanchor := UInt64.le_iff_toNat_le.1 hanchor
  have horder := UInt64.le_iff_toNat_le.1 horder
  have hfirst : first.capturedAtMs.toNat - anchor.anchorSenderTimestampMs.toNat
      + profile.targetBufferMs.toNat ≤ 2 ^ 64 - 1 := by omega
  simp only [due, min_eq_left hfits, min_eq_left hfirst, Duration.fromMillis, Nat.add_assoc,
    ← Nat.add_mul]
  congr 2
  omega

/-- At `now` the packet is due, and not by more than the profile allows. -/
def SyncClock.InTime (profile : ReceiverLatencyProfile) (packet : ReceiverAudioPacket) (now : Instant)
    (anchor : SyncClock) : Prop :=
  anchor.due profile packet ≤ now ∧
    Duration.asMillis (now - anchor.due profile packet) ≤ profile.latePacketDropMs.toNat

/-- At `now` the packet has been due for longer than the profile allows. -/
def SyncClock.TooLate (profile : ReceiverLatencyProfile) (packet : ReceiverAudioPacket) (now : Instant)
    (anchor : SyncClock) : Prop :=
  profile.latePacketDropMs.toNat < Duration.asMillis (now - anchor.due profile packet)

namespace ReceiverWorker

variable {secsF64 : SecsF64} {env : HandlerEnv} {worker next : ReceiverWorker}

/-- With a window open, a packet is due so long behind the packet that opened it as it was captured
later. -/
theorem writeDeadlineFor_eq_due {anchor : SyncClock} (h : worker.syncClock = some anchor)
    (packet : ReceiverAudioPacket) :
    worker.writeDeadlineFor packet.capturedAtMs = some (anchor.due worker.bufferProfile packet) := by
  simp only [writeDeadlineFor, h, Option.map_some]
  rfl

/-! ### The window across a step -/

/-- The packets in the buffer. -/
def queued (worker : ReceiverWorker) : List ReceiverAudioPacket :=
  worker.buffer.packets.map BufferedPacket.packet

/-- From a worker that schedules against `window` and has `packets` to queue, a step leaves the window
open, with the packets in order but for some of the oldest. Or it closes the window, and leaves no
packet behind. -/
structure WindowStep (window : Option SyncClock) (packets : List ReceiverAudioPacket)
    (worker next : ReceiverWorker) : Prop where
  profile : next.bufferProfile = worker.bufferProfile
  queue : next.syncClock = window ∧ next.queued <:+ packets ∨
    next.syncClock = none ∧ next.queued = []

/-- Whoever touches neither window nor buffer keeps both. -/
theorem WindowStep.kept (hprofile : next.bufferProfile = worker.bufferProfile)
    (hclock : next.syncClock = worker.syncClock) (hqueue : next.queued = worker.queued) :
    WindowStep worker.syncClock worker.queued worker next :=
  ⟨hprofile, Or.inl ⟨hclock, hqueue ▸ List.suffix_rfl⟩⟩

/-- A session that is closed has closed its window, and left nothing behind. -/
theorem Disconnected.windowStep (h : next.Disconnected)
    (hprofile : next.bufferProfile = worker.bufferProfile) (window : Option SyncClock)
    (packets : List ReceiverAudioPacket) : WindowStep window packets worker next :=
  ⟨hprofile, Or.inr ⟨h.syncClock, congrArg (List.map BufferedPacket.packet) h.packets⟩⟩

/-- An error closes the session, and so the window. -/
theorem setError_windowStep (hprofile : next.bufferProfile = worker.bufferProfile)
    (message : String) (window : Option SyncClock) (packets : List ReceiverAudioPacket) :
    WindowStep window packets worker (next.setError env message) :=
  (setError_disconnected env message next).windowStep
    ((setError_bufferProfile env message next).trans hprofile) window packets

/-- So does the end of the session. -/
theorem handleDisconnect_windowStep (hprofile : next.bufferProfile = worker.bufferProfile)
    (reason : String) (reconnectSuggested : Bool) (window : Option SyncClock)
    (packets : List ReceiverAudioPacket) :
    WindowStep window packets worker (next.handleDisconnect env reason reconnectSuggested) :=
  (handleDisconnect_disconnected env reason reconnectSuggested next).windowStep
    ((handleDisconnect_bufferProfile env reason reconnectSuggested next).trans hprofile) window packets

/-- A new session begins without a window, and with an empty buffer. -/
theorem handleConnect_windowStep (secsF64 : SecsF64) (env : HandlerEnv)
    (connection : ReceiverConnectionInfo) (worker : ReceiverWorker) (window : Option SyncClock)
    (packets : List ReceiverAudioPacket) :
    WindowStep window packets worker (worker.handleConnect secsF64 env connection) := by
  obtain ⟨lastError, hstop⟩ := stopPlaybackSink_eq env worker
  simp only [handleConnect, hstop]
  split
  · exact ⟨rfl, Or.inr ⟨rfl, rfl⟩⟩
  · exact setError_windowStep (by rfl) _ _ _

/-- A change of the target touches neither the window nor the buffer. -/
theorem handlePlaybackTargetChange_windowStep (env : HandlerEnv) (targetId : Option String)
    (worker : ReceiverWorker) : WindowStep worker.syncClock worker.queued worker
      (worker.handlePlaybackTargetChange env targetId) := by
  obtain ⟨_, _, _, _, heq, -⟩ := handlePlaybackTargetChange_eq env targetId worker
  rw [heq]
  exact .kept rfl rfl rfl

/-- `settleStates` touches neither the window nor the queue. -/
theorem settleStates_windowStep {window : Option SyncClock} {packets : List ReceiverAudioPacket}
    (h : WindowStep window packets worker next) :
    WindowStep window packets worker next.settleStates := by
  obtain ⟨_, _, _, heq, -⟩ := settleStates_eq next
  rw [heq]
  exact ⟨h.profile, h.queue⟩

/-- What a push drops is the oldest. -/
theorem pushEffect_suffix {buffer buffer' : ReceiverPacketBuffer} {packet : BufferedPacket}
    {outcome : BufferPushOutcome}
    (h : ReceiverPacketBuffer.PushEffect buffer buffer' packet outcome) :
    buffer'.packets <:+ buffer.packets ++ [packet] := by
  cases h with
  | accepted packets => rw [packets]
  | @droppedOldest dropped rest before _ packets =>
    rw [packets, before]
    exact List.suffix_cons dropped (rest ++ [packet])

/-- A packet opens a window if there is none and comes in behind the others, or closes the session by its
error. -/
theorem handlePacket_windowStep (env : HandlerEnv) (packet : ReceiverAudioPacket)
    (h : worker.Invariant) :
    WindowStep (some (worker.syncClock.getD ⟨env.now 0, packet.capturedAtMs⟩))
      (worker.queued ++ [packet]) worker (worker.handlePacket env packet) := by
  rcases hconnection : worker.connection with - | connection
  · obtain ⟨-, hpackets, hclock, -⟩ := h.disconnected hconnection
    simp only [handlePacket, hconnection]
    exact ⟨rfl, Or.inr ⟨hclock, congrArg (List.map BufferedPacket.packet) hpackets⟩⟩
  simp only [handlePacket, hconnection]
  split
  · exact setError_windowStep (by rfl) _ _ _
  split
  · exact setError_windowStep (by rfl) _ _ _
  next outcome buffer hpush =>
    obtain ⟨frameCount, -, heffect, -, -⟩ := ReceiverPacketBuffer.push_eq_ok hpush
    refine settleStates_windowStep ⟨rfl, Or.inl ⟨rfl, ?_⟩⟩
    have hsuffix := (pushEffect_suffix heffect).map BufferedPacket.packet
    rwa [List.map_append] at hsuffix

/-! ### The window across a tick -/

/-- A step that only takes packets off the front may go first. -/
theorem WindowStep.trans_kept {middle : ReceiverWorker} {window : Option SyncClock}
    {packets : List ReceiverAudioPacket} (hclock : middle.syncClock = window)
    (hqueue : middle.queued <:+ packets) (hprofile : middle.bufferProfile = worker.bufferProfile)
    (h : WindowStep middle.syncClock middle.queued middle next) :
    WindowStep window packets worker next := by
  refine ⟨h.profile.trans hprofile, ?_⟩
  rcases h.queue with ⟨hnext, hsuffix⟩ | hclosed
  · exact Or.inl ⟨hnext.trans hclock, hsuffix.trans hqueue⟩
  · exact Or.inr hclosed

/-- A pop takes the oldest packet. -/
theorem queued_of_pop {packet : BufferedPacket} {buffer : ReceiverPacketBuffer}
    (h : worker.buffer.pop = some (packet, buffer)) :
    worker.queued = packet.packet :: buffer.packets.map BufferedPacket.packet := by
  obtain ⟨hpackets, -, -⟩ := ReceiverPacketBuffer.pop_eq_some h
  rw [queued, hpackets, List.map_cons]

/-- A round that goes on leaves the window open and the queue without its head. -/
theorem drainRound_again_window {round : ℕ} (hdraining : worker.Draining)
    (hround : drainRound env round worker = .again next) :
    next.syncClock = worker.syncClock ∧ next.queued <:+ worker.queued ∧
      next.bufferProfile = worker.bufferProfile := by
  have houtcome := drainRound_outcome env round hdraining
  rw [hround] at houtcome
  cases houtcome with
  | stale pop =>
    rw [queued_of_pop pop]
    exact ⟨rfl, List.suffix_cons _ _, rfl⟩
  | played pop =>
    rw [queued_of_pop pop]
    exact ⟨rfl, List.suffix_cons _ _, rfl⟩

/-- The last round keeps the window, or closes it on an empty buffer. -/
theorem drainRound_done_window {round : ℕ} {exit : DrainExit} (hdraining : worker.Draining)
    (hround : drainRound env round worker = .done (exit, next)) :
    WindowStep worker.syncClock worker.queued worker next := by
  have houtcome := drainRound_outcome env round hdraining
  rw [hround] at houtcome
  cases houtcome with
  | drained empty =>
    unfold underrun
    split
    · exact ⟨rfl, Or.inr ⟨rfl, congrArg (List.map BufferedPacket.packet) empty⟩⟩
    · exact .kept rfl rfl rfl
  | resynced pop due late empty =>
    exact ⟨rfl, Or.inr ⟨rfl, congrArg (List.map BufferedPacket.packet) empty⟩⟩
  | waiting early => exact .kept rfl rfl rfl
  | writeFailed pop => exact setError_windowStep (by rfl) _ _ _

/-- The whole loop does, by its rounds. -/
theorem drainReadyPackets_windowStep {exit : DrainExit} (h : worker.Invariant)
    (hdrain : worker.drainReadyPackets env = some (exit, next)) :
    WindowStep worker.syncClock worker.queued worker next := by
  rcases drainReadyPackets_cases env h with ⟨exit', state, sync, hcase, -⟩ | ⟨hdraining, hcase⟩
  · obtain ⟨-, rfl⟩ := Prod.mk.inj (Option.some.inj (hcase.symm.trans hdrain))
    exact .kept rfl rfl rfl
  · refine @of_drainLoop env worker
      (fun middle ↦ middle.syncClock = worker.syncClock ∧ middle.queued <:+ worker.queued ∧
        middle.bufferProfile = worker.bufferProfile)
      (fun result ↦ WindowStep worker.syncClock worker.queued worker result.2)
      (fun _ middle next hdraining hI hround ↦ ?_) (fun _ middle result hdraining hI hround ↦ ?_) _
      hdraining ⟨rfl, List.suffix_rfl, rfl⟩ (hcase.symm.trans hdrain)
    · obtain ⟨hclock, hqueue, hprofile⟩ := drainRound_again_window hdraining hround
      exact ⟨hclock.trans hI.1, hqueue.trans hI.2.1, hprofile.trans hI.2.2⟩
    · exact .trans_kept hI.1 hI.2.1 hI.2.2 (drainRound_done_window hdraining hround)

/-- **A tick** keeps the window or closes it, and brings nothing into the buffer. -/
theorem onTick_windowStep (h : worker.Invariant) (hstep : worker.onTick env = some next) :
    WindowStep worker.syncClock worker.queued worker next := by
  obtain ⟨exit, final, hdrain, hnext⟩ := onTick_cases hstep
  have hfinal := drainReadyPackets_windowStep h hdrain
  rcases hnext with ⟨sync, rfl⟩ | ⟨hdisconnected, hprofile⟩
  · exact ⟨hfinal.profile, hfinal.queue⟩
  · exact hdisconnected.windowStep (hprofile.trans hfinal.profile) _ _

/-- So does any other input that is not a packet. -/
theorem step_windowStep {input : HandlerEnv × WorkerInput} (h : worker.Invariant)
    (hinput : audioPacketOf input = []) (hstep : worker.step secsF64 input = some next) :
    WindowStep worker.syncClock worker.queued worker next := by
  obtain ⟨env, input⟩ := input
  cases input with
  | transport event =>
    obtain rfl := Option.some.inj hstep
    cases event with
    | connected connection => exact handleConnect_windowStep secsF64 env connection worker _ _
    | audioPacket packet => exact absurd hinput (List.cons_ne_nil packet [])
    | keepAlive => exact .kept rfl rfl rfl
    | disconnected reason reconnectSuggested => exact handleDisconnect_windowStep rfl reason _ _ _
    | error message => exact setError_windowStep rfl message _ _
  | setPlaybackTarget targetId =>
    obtain rfl := Option.some.inj hstep
    exact handlePlaybackTargetChange_windowStep env targetId worker
  | tick => exact onTick_windowStep h hstep

/-! ### The rounds of the drain loop -/

/-- A packet that is too late is late by whole milliseconds. -/
theorem lt_asMillis_of_late {now deadline : Instant} {bound : ℕ}
    (h : signedInstantDeltaMs now deadline > bound) :
    bound < Duration.asMillis (now - deadline) := by
  unfold signedInstantDeltaMs at h
  split at h
  · have := Int.ofNat_lt.1 h
    omega
  · omega

/-- One that is in time is not. -/
theorem asMillis_le_of_inTime {now deadline : Instant} {bound : UInt16} (hdue : deadline ≤ now)
    (h : signedInstantDeltaMs now deadline ≤ bound.toNat) :
    Duration.asMillis (now - deadline) ≤ bound.toNat := by
  have hword := bound.toNat_lt
  have hmax : Word.max 31 = 2147483647 := rfl
  rw [signedInstantDeltaMs, if_pos hdue] at h
  have := Int.ofNat_le.1 h
  omega

theorem schedule_written (deadline : Instant) (scheduleErrorMs : ℤ)
    (worker : ReceiverWorker) :
    (worker.schedule deadline scheduleErrorMs).written = worker.written := rfl

theorem withBuffer_written (buffer : ReceiverPacketBuffer) (worker : ReceiverWorker) :
    (worker.withBuffer buffer).written = worker.written := rfl

theorem dropStale_written (buffer : ReceiverPacketBuffer) (worker : ReceiverWorker) :
    (worker.dropStale buffer).written = worker.written := rfl

theorem countPlayed_written (packet : BufferedPacket) (scheduleErrorMs : ℤ)
    (sinkWrite : SinkWrite) (worker : ReceiverWorker) :
    (worker.countPlayed packet scheduleErrorMs sinkWrite).written = worker.written ++ [sinkWrite] :=
  rfl

theorem resynced_written (worker : ReceiverWorker) :
    ((worker.resetSyncTimeline true).setSyncState .recovering).written = worker.written := rfl

theorem awaitPacket_written (worker : ReceiverWorker) :
    worker.awaitPacket.written = worker.written := rfl

theorem underrun_written (worker : ReceiverWorker) : worker.underrun.written = worker.written := by
  unfold underrun
  split <;> rfl

theorem setError_written (env : HandlerEnv) (message : String) (worker : ReceiverWorker) :
    (worker.setError env message).written = worker.written := by
  obtain ⟨lastError, hstop⟩ := stopPlaybackSink_eq env worker
  simp only [setError, hstop]
  rfl

/-- A worker with packets is one that plays. -/
theorem Invariant.draining_or_empty (h : worker.Invariant) :
    worker.Draining ∨ worker.buffer.packets = [] := by
  rcases hclock : worker.syncClock with - | anchor
  · exact Or.inr (h.clockless hclock).1
  rcases hconnection : worker.connection with - | connection
  · exact Or.inr (h.disconnected hconnection).2.1
  · have hsome : worker.connection.isSome = true := by rw [hconnection, Option.isSome_some]
    exact Or.inl ⟨h.active.2 hsome, hsome, h.sink hsome, by rw [hclock, Option.isSome_some]⟩

/-- On an empty buffer the loop ends at once. -/
theorem drainRound_empty (env : HandlerEnv) (round : ℕ) (h : worker.buffer.packets = []) :
    drainRound env round worker = .done (.drained, worker.underrun) := by
  simp only [drainRound, ReceiverPacketBuffer.front_eq_none.2 h]

/-- A drain loop that starts empty stays where it is. -/
theorem visits_empty {round : ℕ} (h : worker.buffer.packets = [])
    (hvisits : Loop.Visits (drainBody env) (0, worker) (round, next)) : next = worker := by
  refine @Loop.Visits.invariant _ _ (drainBody env) (fun state ↦ state.2 = worker)
    (fun state state' hstate hbody ↦ ?_) _ _ hvisits rfl
  have hround := drainBody_again hbody
  rw [drainRound_empty env state.1 (by rw [hstate, h])] at hround
  cases hround

/-- The rounds of a drain loop go on draining, in the window the loop started in. -/
theorem visits_window {round : ℕ} (hdraining : worker.Draining)
    (h : Loop.Visits (drainBody env) (0, worker) (round, next)) :
    next.Draining ∧ WindowStep worker.syncClock worker.queued worker next := by
  have hvisited := @Loop.Visits.invariant _ _ (drainBody env)
    (fun state ↦ state.2.Draining ∧ state.2.syncClock = worker.syncClock ∧
      state.2.queued <:+ worker.queued ∧ state.2.bufferProfile = worker.bufferProfile)
    (fun state state' hstate hbody ↦ by
      obtain ⟨hdraining, hclock, hqueue, hprofile⟩ := hstate
      have hround := drainBody_again hbody
      obtain ⟨hclock', hqueue', hprofile'⟩ := drainRound_again_window hdraining hround
      exact ⟨(drainRound_again hdraining hround).1, hclock'.trans hclock, hqueue'.trans hqueue,
        hprofile'.trans hprofile⟩)
    _ _ h ⟨hdraining, rfl, List.suffix_rfl, rfl⟩
  obtain ⟨hdraining', hclock, hqueue, hprofile⟩ := hvisited
  exact ⟨hdraining', hprofile, Or.inl ⟨hclock, hqueue⟩⟩

end ReceiverWorker

/-! ### The ledger of anchors -/

/-- A receiver worker beside a ledger of its packets. -/
structure AnchoredWorker where
  worker : ReceiverWorker
  /-- The first packet of the open window, and when it was received. -/
  window : Option SyncClock
  /-- The packets in the buffer, each with the anchor of the window it arrived in. -/
  queue : List (ReceiverAudioPacket × SyncClock)

namespace AnchoredWorker

def new (secsF64 : SecsF64) (playbackTargetId : Option String)
    (latencyPreset : ReceiverLatencyPreset) : AnchoredWorker where
  worker := .new secsF64 playbackTargetId latencyPreset
  window := none
  queue := []

/-- A packet that arrives opens a window, unless one is open. -/
def receive (anchored : AnchoredWorker) : HandlerEnv × ReceiverWorker.WorkerInput → AnchoredWorker
  | (env, .transport (.audioPacket packet)) =>
    let anchor := anchored.window.getD ⟨env.now 0, packet.capturedAtMs⟩
    { anchored with
      window := some anchor
      queue := anchored.queue ++ [(packet, anchor)] }
  | _ => anchored

/-- The worker has gone on to `next`: the ledger forgets the packets that left the buffer, which are
the oldest ones, and the window if it was closed. -/
def settle (anchored : AnchoredWorker) (next : ReceiverWorker) : AnchoredWorker where
  worker := next
  window := if next.syncClock.isNone then none else anchored.window
  queue := anchored.queue.drop (anchored.queue.length - next.buffer.packets.length)

def step (secsF64 : SecsF64) (anchored : AnchoredWorker)
    (input : HandlerEnv × ReceiverWorker.WorkerInput) : Option AnchoredWorker :=
  (anchored.worker.step secsF64 input).map (anchored.receive input).settle

/-- **The ledger fits the worker**: it knows its packets, and each of them arrived in the window the
worker schedules against. -/
structure Fits (profile : ReceiverLatencyProfile) (anchored : AnchoredWorker) : Prop where
  invariant : anchored.worker.Invariant
  profile : anchored.worker.bufferProfile = profile
  window : anchored.window = anchored.worker.syncClock
  queue : anchored.queue.map Prod.fst = anchored.worker.queued
  anchors : ∀ entry ∈ anchored.queue, anchored.window = some entry.2

variable {secsF64 : SecsF64} {profile : ReceiverLatencyProfile} {anchored : AnchoredWorker}

open ReceiverWorker

/-- The ledger of a new worker is empty. -/
theorem fits_new (secsF64 : SecsF64) (playbackTargetId : Option String)
    (latencyPreset : ReceiverLatencyPreset) :
    (new secsF64 playbackTargetId latencyPreset).Fits latencyPreset.profile where
  invariant := .new secsF64 playbackTargetId latencyPreset
  profile := rfl
  window := rfl
  queue := rfl
  anchors _ hmem := absurd hmem List.not_mem_nil

/-- Where the window closes the buffer is empty, so a settled ledger fits again. -/
theorem fits_settle {worker next : ReceiverWorker} (hprofile : worker.bufferProfile = profile)
    (hinvariant : next.Invariant)
    (hstep : WindowStep anchored.window (anchored.queue.map Prod.fst) worker next)
    (hanchors : ∀ entry ∈ anchored.queue, anchored.window = some entry.2) :
    (anchored.settle next).Fits profile := by
  have hlength : next.buffer.packets.length = next.queued.length := by
    rw [queued, List.length_map]
  refine ⟨hinvariant, hstep.profile.trans hprofile, ?_, ?_, fun entry hmem ↦ ?_⟩
  · show (if next.syncClock.isNone then none else anchored.window) = next.syncClock
    rcases hstep.queue with ⟨hclock, -⟩ | ⟨hclock, -⟩
    · rw [hclock]
      split
      next hnone => exact (Option.isNone_iff_eq_none.1 hnone).symm
      · rfl
    · rw [hclock, Option.isNone_none, if_pos rfl]
  · show (anchored.queue.drop _).map Prod.fst = next.queued
    rw [List.map_drop, hlength, ← List.length_map Prod.fst]
    rcases hstep.queue with ⟨-, hsuffix⟩ | ⟨-, hempty⟩
    · exact (List.suffix_iff_eq_drop.1 hsuffix).symm
    · rw [hempty, List.length_nil, Nat.sub_zero, List.drop_length]
  · have hmem : entry ∈ anchored.queue.drop (anchored.queue.length - next.buffer.packets.length) := hmem
    show (if next.syncClock.isNone then none else anchored.window) = some entry.2
    rcases hstep.queue with ⟨hclock, -⟩ | ⟨-, hempty⟩
    · have hwindow := hanchors entry (List.mem_of_mem_drop hmem)
      rw [hclock, hwindow, Option.isNone_some, if_neg Bool.false_ne_true]
    · rw [hlength, hempty, List.length_nil, Nat.sub_zero, List.drop_length] at hmem
      exact absurd hmem List.not_mem_nil

/-- **Every input can be taken, and keeps the ledger fitting.** -/
theorem Fits.step (h : anchored.Fits profile) (secsF64 : SecsF64)
    (input : HandlerEnv × WorkerInput) :
    ∃ next, anchored.worker.step secsF64 input = some next.worker ∧
      anchored.step secsF64 input = some next ∧ next.Fits profile := by
  obtain ⟨next, hstep, hnext⟩ := step_invariant secsF64 input h.invariant
  refine ⟨(anchored.receive input).settle next, hstep, by rw [AnchoredWorker.step, hstep]; rfl, ?_⟩
  by_cases hpacket : audioPacketOf input = []
  · have hreceive : anchored.receive input = anchored := by
      unfold receive
      split
      · exact absurd hpacket (List.cons_ne_nil _ _)
      · rfl
    have hwindow := step_windowStep h.invariant hpacket hstep
    rw [← h.window, ← h.queue] at hwindow
    rw [hreceive]
    exact fits_settle h.profile hnext hwindow h.anchors
  · obtain ⟨env, packet, rfl⟩ : ∃ env packet, input = (env, .transport (.audioPacket packet)) := by
      unfold audioPacketOf at hpacket
      split at hpacket
      next env packet => exact ⟨env, packet, rfl⟩
      · exact absurd rfl hpacket
    obtain rfl := Option.some.inj hstep
    have hwindow := handlePacket_windowStep env packet h.invariant
    rw [← h.window, ← h.queue] at hwindow
    refine fits_settle (by exact h.profile) hnext ?_ fun entry hmem ↦ ?_
    · simp only [receive, List.map_append, List.map_cons, List.map_nil]
      exact hwindow
    · rcases List.mem_append.1 hmem with hold | hnew
      · simp only [receive, h.anchors entry hold, Option.getD_some]
      · obtain rfl := List.mem_singleton.1 hnew
        rfl

/-! ### The rounds of a tick -/

/-- What a round of the drain loop does with the packet at the front, which the ledger knows by its
anchor: it writes it in time, or drops it too late. A round that ends the loop writes nothing. -/
def KeepsTime (profile : ReceiverLatencyProfile) (env : HandlerEnv) (round : ℕ)
    (anchored : AnchoredWorker) : LoopStep ReceiverWorker (DrainExit × ReceiverWorker) → Prop
  | .again next => ∃ packet anchor rest, anchored.queue = (packet, anchor) :: rest ∧
      next.queued = rest.map Prod.fst ∧
      ((∃ sink, next.written = anchored.worker.written
          ++ [⟨sink, packet.payload, env.now round, anchor.due profile packet⟩] ∧
          anchor.InTime profile packet (env.now round)) ∨
        next.written = anchored.worker.written ∧ anchor.TooLate profile packet (env.now round))
  | .done (exit, next) => next.written = anchored.worker.written ∧
      (exit = .resynced → ∃ packet anchor, anchored.queue = [(packet, anchor)] ∧
        anchor.TooLate profile packet (env.now round))

/-- The packet at the front is scheduled against its own anchor. -/
theorem Fits.front (h : anchored.Fits profile) {packet : BufferedPacket}
    {buffer : ReceiverPacketBuffer} {deadline : Instant}
    (hpop : anchored.worker.buffer.pop = some (packet, buffer))
    (hdue : anchored.worker.writeDeadlineFor packet.packet.capturedAtMs = some deadline) :
    ∃ anchor rest, anchored.queue = (packet.packet, anchor) :: rest ∧
      rest.map Prod.fst = buffer.packets.map BufferedPacket.packet ∧
      deadline = anchor.due profile packet.packet := by
  have hqueue := h.queue
  rw [queued_of_pop hpop] at hqueue
  obtain ⟨⟨_, anchor⟩, rest, hentries, rfl, hrest⟩ := List.map_eq_cons_iff.1 hqueue
  refine ⟨anchor, rest, hentries, hrest, ?_⟩
  have hanchor := h.anchors (packet.packet, anchor) (by rw [hentries]; exact List.mem_cons_self)
  rw [writeDeadlineFor_eq_due (h.window.symm.trans hanchor), h.profile] at hdue
  exact (Option.some.inj hdue).symm

/-- **A round keeps time.** -/
theorem Fits.keepsTime (h : anchored.Fits profile) (hdraining : anchored.worker.Draining)
    (env : HandlerEnv) (round : ℕ) :
    anchored.KeepsTime profile env round (drainRound env round anchored.worker) := by
  have houtcome := drainRound_outcome env round hdraining
  generalize drainRound env round anchored.worker = result at houtcome ⊢
  cases houtcome with
  | drained empty =>
    exact ⟨underrun_written _, fun hexit ↦ DrainExit.noConfusion hexit⟩
  | stale pop due late more =>
    obtain ⟨anchor, rest, hqueue, hrest, rfl⟩ := h.front pop due
    refine ⟨_, anchor, rest, hqueue, hrest.symm, Or.inr ⟨?_, ?_⟩⟩
    · rw [dropStale_written, schedule_written]
    · rw [h.profile] at late
      exact lt_asMillis_of_late late
  | resynced pop due late empty =>
    obtain ⟨anchor, rest, hqueue, hrest, rfl⟩ := h.front pop due
    rw [empty, List.map_nil, List.map_eq_nil_iff] at hrest
    rw [hrest] at hqueue
    refine ⟨?_, fun _ ↦ ⟨_, anchor, hqueue, ?_⟩⟩
    · rw [resynced_written, dropStale_written, schedule_written]
    · rw [h.profile] at late
      exact lt_asMillis_of_late late
  | waiting early =>
    refine ⟨?_, fun hexit ↦ DrainExit.noConfusion hexit⟩
    rw [awaitPacket_written, schedule_written]
  | writeFailed pop =>
    refine ⟨?_, fun hexit ↦ DrainExit.noConfusion hexit⟩
    rw [setError_written, withBuffer_written, schedule_written]
  | @played packet buffer deadline sink pop due punctual inTime =>
    obtain ⟨anchor, rest, hqueue, hrest, rfl⟩ := h.front pop due
    refine ⟨_, anchor, rest, hqueue, hrest.symm, Or.inl ⟨sink, ?_, punctual, ?_⟩⟩
    · rw [countPlayed_written, withBuffer_written, schedule_written]
    · rw [h.profile] at inTime
      exact asMillis_le_of_inTime punctual inTime

/-- **Packets are played inside their window.** Every run of the worker has its ledger. Wherever a tick
then comes to, with whatever clock readings: a round that writes the packet at the front writes it at a
time when it is due, and not by more than `late_packet_drop_ms`; a round that drops it as stale finds
it later than that. Due times come from the anchor of the window the packet arrived in; the packets of
one window are due at the distances of their capture times, from the anchor on and as long as the sum
does not saturate. -/
theorem played_inside_window (secsF64 : SecsF64) (playbackTargetId : Option String)
    (latencyPreset : ReceiverLatencyPreset) (inputs : List (HandlerEnv × WorkerInput)) :
    ∃ anchored, Transition.run (step secsF64) (new secsF64 playbackTargetId latencyPreset) inputs =
        some anchored ∧
      Transition.run (ReceiverWorker.step secsF64)
        (.new secsF64 playbackTargetId latencyPreset) inputs = some anchored.worker ∧
      anchored.queue.map Prod.fst = anchored.worker.queued ∧
      (∀ env round worker, Loop.Visits (drainBody env) (0, anchored.worker) (round, worker) →
        (anchored.settle worker).KeepsTime latencyPreset.profile env round
          (drainRound env round worker)) ∧
      ∀ (anchor : SyncClock) (first second : ReceiverAudioPacket),
        anchor.anchorSenderTimestampMs ≤ first.capturedAtMs →
        first.capturedAtMs ≤ second.capturedAtMs →
        second.capturedAtMs.toNat - anchor.anchorSenderTimestampMs.toNat
          + latencyPreset.profile.targetBufferMs.toNat ≤ 2 ^ 64 - 1 →
        anchor.due latencyPreset.profile second = anchor.due latencyPreset.profile first
          + Duration.fromMillis (second.capturedAtMs.toNat - first.capturedAtMs.toNat) := by
  have hruns : ∃ anchored, Transition.run (step secsF64)
      (new secsF64 playbackTargetId latencyPreset) inputs = some anchored ∧
      anchored.Fits latencyPreset.profile :=
    Transition.exists_run (fun _ input h ↦ by
      obtain ⟨next, -, hstep, hnext⟩ := h.step secsF64 input
      exact ⟨next, hstep, hnext⟩) (fits_new secsF64 playbackTargetId latencyPreset) inputs
  obtain ⟨anchored, hrun, hfits⟩ := hruns
  have hworker : ∃ worker, Transition.run (ReceiverWorker.step secsF64)
      (.new secsF64 playbackTargetId latencyPreset) inputs = some worker ∧
      anchored.worker = worker ∧ anchored.Fits latencyPreset.profile :=
    @Transition.run_simulation _ _ (step secsF64) _ (ReceiverWorker.step secsF64) (fun _ _ ↦ True)
      (fun anchored worker ↦ anchored.worker = worker ∧ anchored.Fits latencyPreset.profile)
      (fun anchored worker input anchored' hmatch _ hstep ↦ by
        obtain ⟨rfl, hfits⟩ := hmatch
        obtain ⟨next, hworker, hstep', hnext⟩ := hfits.step secsF64 input
        obtain rfl := Option.some.inj (hstep'.symm.trans hstep)
        exact ⟨next.worker, hworker, rfl, hnext⟩)
      _ _ _ _ ⟨rfl, fits_new secsF64 playbackTargetId latencyPreset⟩ (Transition.along_true _ _) hrun
  obtain ⟨worker, hworker, rfl, -⟩ := hworker
  refine ⟨anchored, hrun, hworker, hfits.queue, fun env round worker hvisits ↦ ?_,
    fun _ _ _ ↦ SyncClock.due_spaced⟩
  -- without packets a drain writes nothing, and there is no window to keep
  rcases hfits.invariant.draining_or_empty with hdraining | hempty
  · obtain ⟨hdraining', hwindow⟩ := visits_window hdraining hvisits
    rw [← hfits.window, ← hfits.queue] at hwindow
    exact (fits_settle hfits.profile hdraining'.invariant hwindow hfits.anchors).keepsTime
      hdraining' env round
  · obtain rfl := visits_empty hempty hvisits
    rw [drainRound_empty env round hempty]
    exact ⟨underrun_written _, fun hexit ↦ DrainExit.noConfusion hexit⟩

/-- A connection for a stream of the default shape. -/
def defaultConnection : ReceiverConnectionInfo where
  sessionId := "session-1"
  remoteAddr := none
  stream := {}
  requestedLatencyMs := 30

/-- A packet of one frame. -/
def frameAt (sequence capturedAtMs : UInt64) : HandlerEnv × WorkerInput :=
  (calmEnv 0, .transport (.audioPacket ⟨sequence, capturedAtMs, 0, [0, 0, 0, 0]⟩))

/-- Three packets of one window, the last two captured a millisecond apart at the end of the sender's
clock: the worker schedules both for the same moment. -/
theorem spacing_saturates :
    (Transition.run (ReceiverWorker.step fun _ _ ↦ 10000000)
        (.new (fun _ _ ↦ 10000000) none .lowLatency)
        [(calmEnv 0, .transport (.connected defaultConnection)), frameAt 0 0,
          frameAt 1 18446744073709551614, frameAt 2 18446744073709551615]).map
        (fun worker ↦ (worker.syncClock, worker.queued.map ReceiverAudioPacket.capturedAtMs,
          worker.queued.map fun packet ↦ worker.writeDeadlineFor packet.capturedAtMs)) =
      some (some ⟨0, 0⟩, [0, 18446744073709551614, 18446744073709551615],
        [some (Duration.fromMillis 30), some (Duration.fromMillis (2 ^ 64 - 1)),
          some (Duration.fromMillis (2 ^ 64 - 1))]) := by
  decide

end AnchoredWorker

end SynchroSonic
