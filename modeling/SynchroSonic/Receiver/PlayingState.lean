import SynchroSonic.Receiver.SyncWindow

/-!
# Playing outside a sync window

A worker that reports `Playing` should have a sync window open. Two rounds of the drain loop close the
window with the session still up: the one that finds the buffer empty goes back to `Buffering`, the one
that drops the last packet as stale leaves the state as it is. If that happens during playback the
worker reports `Playing` without a window, and the packets and ticks that follow leave it at that.

`LosesWindow` is that tick, told by the queue and the clock readings in front of it. It is the only step
that goes wrong (`lacksWindow_step`): a worker that had its window, or did not play, is then left playing
without one exactly if the step was such a tick.
-/

namespace SynchroSonic

namespace ReceiverWorker

/-! ### The turn of a packet -/

/-- The packet is too late when its turn comes in `round`. -/
def Stale (env : HandlerEnv) (round : ℕ) (packet : BufferedPacket) (worker : ReceiverWorker) : Prop :=
  ∃ deadline ∈ worker.writeDeadlineFor packet.packet.capturedAtMs,
    signedInstantDeltaMs (env.now round) deadline > worker.bufferProfile.latePacketDropMs.toNat

/-- The packet is in time when its turn comes in `round`, and the sink takes it. -/
def Plays (env : HandlerEnv) (round : ℕ) (packet : BufferedPacket) (worker : ReceiverWorker) : Prop :=
  ∃ deadline ∈ worker.writeDeadlineFor packet.packet.capturedAtMs,
    signedInstantDeltaMs (env.now round) deadline ≤ worker.bufferProfile.latePacketDropMs.toNat ∧
      deadline ≤ env.now round ∧
      ∃ sink ∈ worker.playbackSink, env.write round sink packet.packet.payload = .ok ()

/-- From `round` on the last packet of the queue is stale when its turn comes, and every other one stale
or played; and the worker plays already, or one of them is played. -/
def RunsDryStale (env : HandlerEnv) (round : ℕ) (worker : ReceiverWorker) : Prop :=
  ∃ taken last, worker.buffer.packets = taken ++ [last] ∧
    worker.Stale env (round + taken.length) last ∧
    (∀ turn ∈ taken.zipIdx round,
      worker.Stale env turn.2 turn.1 ∨ worker.Plays env turn.2 turn.1) ∧
    (worker.state = .playing ∨ ∃ turn ∈ taken.zipIdx round, worker.Plays env turn.2 turn.1)

/-- Nothing has been heard for the grace period. -/
def Silent (env : HandlerEnv) (worker : ReceiverWorker) : Prop :=
  ∃ lastActivity ∈ worker.lastTransportActivity,
    worker.bufferProfile.reconnectGracePeriod ≤ env.timeoutNow - lastActivity

/-- The input is a tick that drains the queue, the last packet as stale and during playback, and does not
find the sender silent. -/
def LosesWindow (worker : ReceiverWorker) : HandlerEnv × WorkerInput → Prop
  | (env, .tick) =>
    (worker.nextPlaybackDeadline.isSome ∨ worker.buffer.isReady = true) ∧
      worker.RunsDryStale env 0 ∧ ¬worker.Silent env
  | _ => False

/-- The worker reports `Playing`, and has no window to play in. -/
def LacksWindow (worker : ReceiverWorker) : Prop :=
  worker.state = .playing ∧ worker.syncClock = none

variable {secsF64 : SecsF64} {env : HandlerEnv} {worker next : ReceiverWorker}

/-- Stale or not, and if not due or not, and if due taken by the sink or not: what becomes of the packet
at the front. -/
inductive Turn (env : HandlerEnv) (round : ℕ) (worker : ReceiverWorker) (packet : BufferedPacket)
    (buffer : ReceiverPacketBuffer) :
    LoopStep ReceiverWorker (DrainExit × ReceiverWorker) → Prop
  | stale {deadline : Instant} {scheduleErrorMs : ℤ} (stale : worker.Stale env round packet)
      (more : buffer.packets ≠ []) :
      Turn env round worker packet buffer
        (.again ((worker.schedule deadline scheduleErrorMs).dropStale buffer))
  | resynced {deadline : Instant} {scheduleErrorMs : ℤ} (stale : worker.Stale env round packet)
      (empty : buffer.packets = []) :
      Turn env round worker packet buffer (.done (.resynced,
        (((worker.schedule deadline scheduleErrorMs).dropStale buffer).resetSyncTimeline
          true).setSyncState .recovering))
  | played {deadline : Instant} {scheduleErrorMs : ℤ} {sinkWrite : SinkWrite}
      (plays : worker.Plays env round packet) :
      Turn env round worker packet buffer (.again
        (((worker.schedule deadline scheduleErrorMs).withBuffer buffer).countPlayed packet
          scheduleErrorMs sinkWrite))
  | kept {deadline : Instant} {scheduleErrorMs : ℤ} (notStale : ¬worker.Stale env round packet)
      (notPlayed : ¬worker.Plays env round packet) :
      Turn env round worker packet buffer
        (.done (.waiting, (worker.schedule deadline scheduleErrorMs).awaitPacket))
  | refused {deadline : Instant} {scheduleErrorMs : ℤ} {message : String}
      (notStale : ¬worker.Stale env round packet) (notPlayed : ¬worker.Plays env round packet) :
      Turn env round worker packet buffer (.done (.writeFailed, setError env message
        ((worker.schedule deadline scheduleErrorMs).withBuffer buffer)))

/-- **A round is the turn of the packet at the front.** -/
theorem drainRound_turn {packet : BufferedPacket} {buffer : ReceiverPacketBuffer}
    (round : ℕ) (h : worker.Draining) (hpop : worker.buffer.pop = some (packet, buffer)) :
    Turn env round worker packet buffer (drainRound env round worker) := by
  obtain ⟨anchor, hanchor⟩ := Option.isSome_iff_exists.1 h.syncClock
  obtain ⟨sink, hsink⟩ := Option.isSome_iff_exists.1 h.playbackSink
  have hfront : worker.buffer.front = some packet := by
    obtain ⟨hpackets, -, -⟩ := ReceiverPacketBuffer.pop_eq_some hpop
    rw [ReceiverPacketBuffer.front, hpackets, List.head?_cons]
  have hdue := writeDeadlineFor_eq_due hanchor packet.packet
  generalize anchor.due worker.bufferProfile packet.packet = deadline at hdue
  simp only [drainRound, hfront, hdue, hpop, hsink]
  split
  next hlate =>
    have hstale : worker.Stale env round packet := ⟨deadline, hdue, hlate⟩
    rcases hmore : buffer.front with - | following
    · exact .resynced hstale (ReceiverPacketBuffer.front_eq_none.1 hmore)
    · refine .stale hstale fun hempty ↦ ?_
      rw [ReceiverPacketBuffer.front_eq_none.2 hempty] at hmore
      cases hmore
  next hinTime =>
  -- the source tests first whether the packet is stale, then whether it is early
  have hnotStale : ¬worker.Stale env round packet := by
    rintro ⟨deadline', hdue', hlate⟩
    obtain rfl := Option.some.inj (hdue.symm.trans hdue')
    exact hinTime hlate
  split
  next hearly =>
    refine .kept hnotStale ?_
    rintro ⟨deadline', hdue', -, hpunctual, -⟩
    obtain rfl := Option.some.inj (hdue.symm.trans hdue')
    exact absurd hearly (not_lt.2 hpunctual)
  next hpunctual =>
  split
  next error hwrite =>
    refine .refused hnotStale ?_
    rintro ⟨-, -, -, -, sink', hsink', hwrite'⟩
    obtain rfl := Option.some.inj (hsink.symm.trans hsink')
    cases hwrite.symm.trans hwrite'
  next hwrite =>
    exact .played ⟨deadline, hdue, not_lt.1 hinTime, not_lt.1 hpunctual, sink, hsink, hwrite⟩

/-! ### A queue that runs dry -/

/-- A stale packet is not played. -/
theorem Stale.not_plays {round : ℕ} {packet : BufferedPacket} (h : worker.Stale env round packet) :
    ¬worker.Plays env round packet := by
  rintro ⟨deadline, hdue, hinTime, -⟩
  obtain ⟨deadline', hdue', hlate⟩ := h
  obtain rfl := Option.some.inj (hdue.symm.trans hdue')
  omega

/-- An empty buffer does not run dry. -/
theorem not_runsDryStale_of_empty {round : ℕ} (h : worker.buffer.packets = []) :
    ¬worker.RunsDryStale env round := by
  rintro ⟨taken, last, hpackets, -⟩
  rw [h] at hpackets
  simp at hpackets

/-- The queue of one packet. -/
theorem runsDryStale_singleton {round : ℕ} {packet : BufferedPacket}
    (h : worker.buffer.packets = [packet]) :
    worker.RunsDryStale env round ↔ worker.Stale env round packet ∧ worker.state = .playing := by
  constructor
  · rintro ⟨taken, last, hpackets, hstale, -, hplaying⟩
    obtain ⟨rfl, hlast⟩ := List.append_inj' ((List.nil_append [packet]).trans h.symm |>.trans hpackets) rfl
    obtain rfl := List.singleton_inj.1 hlast
    refine ⟨hstale, hplaying.resolve_right ?_⟩
    rintro ⟨turn, hmem, -⟩
    exact absurd hmem List.not_mem_nil
  · rintro ⟨hstale, hplaying⟩
    exact ⟨[], packet, h, hstale, fun turn hmem ↦ absurd hmem List.not_mem_nil, Or.inl hplaying⟩

/-- A longer queue: the packet at the front, and the rest from the next round on. -/
theorem runsDryStale_cons {round : ℕ} {packet : BufferedPacket} {rest : List BufferedPacket}
    (h : worker.buffer.packets = packet :: rest) (hmore : rest ≠ []) :
    worker.RunsDryStale env round ↔ ∃ taken last, rest = taken ++ [last] ∧
      worker.Stale env (round + 1 + taken.length) last ∧
      (worker.Stale env round packet ∨ worker.Plays env round packet) ∧
      (∀ turn ∈ taken.zipIdx (round + 1),
        worker.Stale env turn.2 turn.1 ∨ worker.Plays env turn.2 turn.1) ∧
      ((worker.state = .playing ∨ worker.Plays env round packet) ∨
        ∃ turn ∈ taken.zipIdx (round + 1), worker.Plays env turn.2 turn.1) := by
  constructor
  · rintro ⟨taken, last, hpackets, hstale, hturns, hplaying⟩
    rw [h] at hpackets
    rcases taken with - | ⟨first, taken⟩
    · exact absurd (List.cons.inj hpackets).2 hmore
    obtain ⟨rfl, hrest⟩ := List.cons.inj hpackets
    rw [List.zipIdx_cons, List.forall_mem_cons] at hturns
    rw [List.zipIdx_cons, List.exists_mem_cons_iff, ← or_assoc] at hplaying
    rw [List.length_cons, ← Nat.add_assoc, Nat.add_right_comm] at hstale
    exact ⟨taken, last, hrest, hstale, hturns.1, hturns.2, hplaying⟩
  · rintro ⟨taken, last, hrest, hstale, hfirst, hturns, hplaying⟩
    refine ⟨packet :: taken, last, by rw [h, hrest, List.cons_append], ?_, ?_, ?_⟩
    · rwa [List.length_cons, ← Nat.add_assoc, Nat.add_right_comm]
    · rw [List.zipIdx_cons, List.forall_mem_cons]
      exact ⟨hfirst, hturns⟩
    · rwa [List.zipIdx_cons, List.exists_mem_cons_iff, ← or_assoc]

/-- The packet at the front is the oldest. -/
theorem packets_of_pop {packet : BufferedPacket} {buffer : ReceiverPacketBuffer}
    (h : worker.buffer.pop = some (packet, buffer)) : worker.buffer.packets = packet :: buffer.packets :=
  (ReceiverPacketBuffer.pop_eq_some h).1

/-- A packet that stays in the way keeps the queue from running dry. -/
theorem not_runsDryStale_of_blocked {round : ℕ} {packet : BufferedPacket}
    {rest : List BufferedPacket} (h : worker.buffer.packets = packet :: rest)
    (hnotStale : ¬worker.Stale env round packet) (hnotPlayed : ¬worker.Plays env round packet) :
    ¬worker.RunsDryStale env round := by
  intro hdry
  by_cases hmore : rest = []
  · rw [hmore] at h
    exact hnotStale ((runsDryStale_singleton h).1 hdry).1
  · obtain ⟨-, -, -, -, hfirst, -⟩ := (runsDryStale_cons h hmore).1 hdry
    exact hfirst.elim hnotStale hnotPlayed

/-! ### The drain loop -/

/-- A round that goes on hands the question on to the next round. -/
theorem runsDryStale_again {round : ℕ} (hdraining : worker.Draining)
    (hround : drainRound env round worker = .again next) :
    worker.RunsDryStale env round ↔ next.RunsDryStale env (round + 1) := by
  rcases hpop : worker.buffer.pop with - | ⟨packet, buffer⟩
  · rw [drainRound_empty env round (ReceiverPacketBuffer.pop_eq_none hpop)] at hround
    cases hround
  have hpackets := packets_of_pop hpop
  have hturn := @drainRound_turn env _ _ _ round hdraining hpop
  rw [hround] at hturn
  cases hturn with
  | stale stale more =>
    rw [runsDryStale_cons hpackets more]
    constructor
    · rintro ⟨taken, last, hrest, hlast, -, hturns, hplaying⟩
      exact ⟨taken, last, hrest, hlast, hturns,
        hplaying.imp_left fun hplaying ↦ hplaying.resolve_right stale.not_plays⟩
    · rintro ⟨taken, last, hrest, hlast, hturns, hplaying⟩
      exact ⟨taken, last, hrest, hlast, Or.inl stale, hturns, hplaying.imp_left Or.inl⟩
  | played plays =>
    by_cases hmore : buffer.packets = []
    · -- The packet that was played was the last one.
      rw [hmore] at hpackets
      exact iff_of_false (fun hdry ↦ ((runsDryStale_singleton hpackets).1 hdry).1.not_plays plays)
        (not_runsDryStale_of_empty hmore)
    rw [runsDryStale_cons hpackets hmore]
    constructor
    · rintro ⟨taken, last, hrest, hlast, -, hturns, -⟩
      exact ⟨taken, last, hrest, hlast, hturns, Or.inl rfl⟩
    · rintro ⟨taken, last, hrest, hlast, hturns, -⟩
      exact ⟨taken, last, hrest, hlast, Or.inr plays, hturns, Or.inl (Or.inr plays)⟩

/-- A worker with a window lacks none. -/
theorem not_lacksWindow_of_clock {anchor : SyncClock} (h : worker.syncClock = some anchor) :
    ¬worker.LacksWindow := by
  rintro ⟨-, hnone⟩
  exact Option.some_ne_none anchor (h.symm.trans hnone)

/-- A worker without a session is not playing. -/
theorem Disconnected.not_lacksWindow (h : worker.Disconnected) : ¬worker.LacksWindow := by
  rintro ⟨hplaying, -⟩
  have hactive := h.state
  rw [hplaying] at hactive
  cases hactive

/-- The round that ends the loop leaves a worker without a window exactly when the queue runs dry on a
stale packet. -/
theorem lacksWindow_done {round : ℕ} {exit : DrainExit} (hdraining : worker.Draining)
    (hround : drainRound env round worker = .done (exit, next)) :
    next.LacksWindow ↔ worker.RunsDryStale env round := by
  obtain ⟨anchor, hanchor⟩ := Option.isSome_iff_exists.1 hdraining.syncClock
  rcases hpop : worker.buffer.pop with - | ⟨packet, buffer⟩
  · have hempty := ReceiverPacketBuffer.pop_eq_none hpop
    rw [drainRound_empty env round hempty] at hround
    obtain ⟨-, rfl⟩ := Prod.mk.inj (LoopStep.done.inj hround)
    refine iff_of_false ?_ (not_runsDryStale_of_empty hempty)
    unfold underrun
    split
    · rintro ⟨hbuffering, -⟩
      cases hbuffering
    · exact not_lacksWindow_of_clock hanchor
  have hpackets := packets_of_pop hpop
  have hturn := @drainRound_turn env _ _ _ round hdraining hpop
  rw [hround] at hturn
  cases hturn with
  | resynced stale empty =>
    rw [empty] at hpackets
    rw [runsDryStale_singleton hpackets]
    exact ⟨fun h ↦ ⟨stale, h.1⟩, fun h ↦ ⟨h.2, rfl⟩⟩
  | kept notStale notPlayed =>
    exact iff_of_false (not_lacksWindow_of_clock (by exact hanchor))
      (not_runsDryStale_of_blocked hpackets notStale notPlayed)
  | refused notStale notPlayed =>
    exact iff_of_false (setError_disconnected _ _ _).not_lacksWindow
      (not_runsDryStale_of_blocked hpackets notStale notPlayed)

theorem drainBody_again_round {state state' : ℕ × ReceiverWorker}
    (h : drainBody env state = .again state') : state'.1 = state.1 + 1 := by
  simp only [drainBody] at h
  split at h
  · obtain rfl := LoopStep.again.inj h
    rfl
  · cases h

/-- The loop is no sign of life of the sender. -/
theorem drainRound_again_activity {round : ℕ} (hdraining : worker.Draining)
    (hround : drainRound env round worker = .again next) :
    next.lastTransportActivity = worker.lastTransportActivity := by
  have houtcome := drainRound_outcome env round hdraining
  rw [hround] at houtcome
  cases houtcome with
  | stale pop => rfl
  | played pop => rfl

/-- Neither is its last round, if it closes the window. -/
theorem drainRound_done_activity {round : ℕ} {exit : DrainExit} (hdraining : worker.Draining)
    (hround : drainRound env round worker = .done (exit, next)) (hlacks : next.LacksWindow) :
    next.lastTransportActivity = worker.lastTransportActivity ∧
      next.bufferProfile = worker.bufferProfile := by
  have houtcome := drainRound_outcome env round hdraining
  rw [hround] at houtcome
  cases houtcome with
  | drained empty =>
    unfold underrun
    split <;> exact ⟨rfl, rfl⟩
  | resynced pop due late empty => exact ⟨rfl, rfl⟩
  | waiting early => exact ⟨rfl, rfl⟩
  | writeFailed pop => exact absurd hlacks (setError_disconnected _ _ _).not_lacksWindow

/-- **The drain loop closes the window during playback exactly when the queue runs dry on a stale
packet.** -/
theorem lacksWindow_drainLoop {exit : DrainExit} (hdraining : worker.Draining)
    (hrun : worker.drainLoop env = some (exit, next)) :
    (next.LacksWindow ↔ worker.RunsDryStale env 0) ∧
      (next.LacksWindow → (next.Silent env ↔ worker.Silent env)) := by
  refine @Loop.of_run _ _ (drainBody env)
    (fun state ↦ state.2.Draining ∧ (worker.RunsDryStale env 0 ↔ state.2.RunsDryStale env state.1) ∧
      state.2.lastTransportActivity = worker.lastTransportActivity ∧
      state.2.bufferProfile = worker.bufferProfile)
    (fun result ↦ (result.2.LacksWindow ↔ worker.RunsDryStale env 0) ∧
      (result.2.LacksWindow → (result.2.Silent env ↔ worker.Silent env)))
    (fun state state' hstate hbody ↦ ?_) (fun state result hstate hbody ↦ ?_) _ _ _
    ⟨hdraining, Iff.rfl, rfl, rfl⟩ hrun
  · obtain ⟨hdraining, hdry, hactivity, hprofile⟩ := hstate
    have hround := drainBody_again hbody
    refine ⟨(drainRound_again hdraining hround).1, ?_,
      (drainRound_again_activity hdraining hround).trans hactivity,
      (drainRound_again_window hdraining hround).2.2.trans hprofile⟩
    rw [drainBody_again_round hbody]
    exact hdry.trans (runsDryStale_again hdraining hround)
  · obtain ⟨hdraining, hdry, hactivity, hprofile⟩ := hstate
    have hround := drainBody_done hbody
    refine ⟨(lacksWindow_done hdraining hround).trans hdry.symm, fun hlacks ↦ ?_⟩
    obtain ⟨hactivity', hprofile'⟩ := drainRound_done_activity hdraining hround hlacks
    simp only [Silent, hactivity', hactivity, hprofile', hprofile]

/-! ### Steps -/

/-- The timeout closes the session of a silent sender, and leaves any other worker lacking what it
lacked. -/
theorem lacksWindow_checkTransportTimeout (env : HandlerEnv) (h : worker.Invariant) :
    (worker.checkTransportTimeout env).LacksWindow ↔ worker.LacksWindow ∧ ¬worker.Silent env := by
  unfold checkTransportTimeout
  split
  next hactivity =>
    refine (and_iff_left ?_).symm
    rintro ⟨lastActivity, hlast, -⟩
    exact Option.some_ne_none lastActivity (hlast.symm.trans hactivity)
  next lastActivity hactivity =>
  split
  next hsilent =>
    refine iff_of_false (handleDisconnect_disconnected _ _ _ _).not_lacksWindow fun hlacks ↦ ?_
    exact hlacks.2 ⟨lastActivity, hactivity, hsilent.2⟩
  next hheard =>
    refine (and_iff_left_of_imp fun hlacks ↦ ?_).symm
    rintro ⟨lastActivity', hlast, hgrace⟩
    obtain rfl := Option.some.inj (hactivity.symm.trans hlast)
    have hactive : worker.state.isActive = true := by rw [hlacks.1]; rfl
    exact hheard ⟨h.active.1 hactive, hgrace⟩

/-- Only a buffer with a window runs dry by staleness. -/
theorem RunsDryStale.clock {round : ℕ} (h : worker.RunsDryStale env round) :
    worker.syncClock ≠ none := by
  obtain ⟨-, last, -, ⟨deadline, hdue, -⟩, -⟩ := h
  intro hnone
  rw [writeDeadlineFor, hnone] at hdue
  cases hdue

/-- What a drain leaves without a window, and whether the sender is silent by then. -/
theorem lacksWindow_drainReadyPackets {exit : DrainExit} (h : worker.Invariant)
    (hlacks : ¬worker.LacksWindow) (hdrain : worker.drainReadyPackets env = some (exit, next)) :
    next.LacksWindow ∧ ¬next.Silent env ↔ worker.LosesWindow (env, .tick) := by
  have hstart := drainReadyPackets_start env h
  generalize worker.drainReadyPackets env = result at hstart hdrain
  cases hstart with
  | notConnected connection =>
    obtain ⟨-, rfl⟩ := Prod.mk.inj (Option.some.inj hdrain)
    have hclock := (h.disconnected connection).2.2.1
    exact iff_of_false (fun hnext ↦ hlacks hnext.1) fun hloses ↦ hloses.2.1.clock hclock
  | noClock clock =>
    obtain ⟨-, rfl⟩ := Prod.mk.inj (Option.some.inj hdrain)
    refine iff_of_false ?_ fun hloses ↦ hloses.2.1.clock clock
    rintro ⟨⟨hplaying, -⟩, -⟩
    change (if worker.state = .connected then _ else _) = _ at hplaying
    split at hplaying
    · cases hplaying
    · exact hlacks ⟨hplaying, clock⟩
  | notReady clock notReady =>
    obtain ⟨-, rfl⟩ := Prod.mk.inj (Option.some.inj hdrain)
    obtain ⟨anchor, hanchor⟩ := Option.isSome_iff_exists.1 clock
    exact iff_of_false (fun hnext ↦ not_lacksWindow_of_clock (by exact hanchor) hnext.1)
      fun hloses ↦ notReady hloses.1
  | drains draining ready =>
    obtain ⟨hiff, hsilent⟩ := lacksWindow_drainLoop draining hdrain
    show _ ↔ _ ∧ _
    rw [and_iff_right ready, ← hiff]
    exact and_congr_right fun hlacks ↦ not_congr (hsilent hlacks)

/-- A tick loses the window exactly if it drains the buffer with a stale packet last. -/
theorem lacksWindow_onTick (h : worker.Invariant) (hlacks : ¬worker.LacksWindow)
    (hstep : worker.onTick env = some next) :
    next.LacksWindow ↔ worker.LosesWindow (env, .tick) := by
  obtain ⟨exit, final, hdrain, rfl⟩ := onTick_eq_some hstep
  obtain ⟨exit', final', hdrain', hfinal, -⟩ := drainReadyPackets_invariant env h
  obtain ⟨rfl, rfl⟩ := Prod.mk.inj (Option.some.inj (hdrain.symm.trans hdrain'))
  rw [← lacksWindow_drainReadyPackets h hlacks hdrain, ← lacksWindow_checkTransportTimeout env hfinal]
  exact Iff.rfl

/-- A new session does not play yet. -/
theorem handleConnect_not_lacksWindow (secsF64 : SecsF64) (env : HandlerEnv)
    (connection : ReceiverConnectionInfo) (worker : ReceiverWorker) :
    ¬(worker.handleConnect secsF64 env connection).LacksWindow := by
  unfold handleConnect
  dsimp only
  split
  · rintro ⟨hconnected, -⟩
    cases hconnected
  · exact (setError_disconnected _ _ _).not_lacksWindow

theorem settleStates_syncClock (worker : ReceiverWorker) :
    worker.settleStates.syncClock = worker.syncClock := by
  obtain ⟨_, _, _, heq, -⟩ := settleStates_eq worker
  rw [heq]

/-- A packet opens the window it needs. -/
theorem handlePacket_not_lacksWindow (env : HandlerEnv) (packet : ReceiverAudioPacket)
    (hlacks : ¬worker.LacksWindow) : ¬(worker.handlePacket env packet).LacksWindow := by
  unfold handlePacket
  split
  · exact hlacks
  dsimp only
  split
  · exact (setError_disconnected _ _ _).not_lacksWindow
  split
  · exact (setError_disconnected _ _ _).not_lacksWindow
  · exact not_lacksWindow_of_clock ((settleStates_syncClock _).trans (by rfl))

/-- A change of the target starts no playing. -/
theorem handlePlaybackTargetChange_not_lacksWindow (env : HandlerEnv) (targetId : Option String)
    (hlacks : ¬worker.LacksWindow) :
    ¬(worker.handlePlaybackTargetChange env targetId).LacksWindow := by
  obtain ⟨_, _, state, _, heq, hstate⟩ := handlePlaybackTargetChange_eq env targetId worker
  rw [heq]
  rintro ⟨hplaying, hclock⟩
  change state = .playing at hplaying
  rcases hstate with rfl | ⟨-, rfl⟩ | ⟨-, rfl⟩
  · exact hlacks ⟨hplaying, hclock⟩
  · cases hplaying
  · cases hplaying

/-- **Only a tick loses the window.** -/
theorem lacksWindow_step {input : HandlerEnv × WorkerInput} (h : worker.Invariant)
    (hlacks : ¬worker.LacksWindow) (hstep : worker.step secsF64 input = some next) :
    next.LacksWindow ↔ worker.LosesWindow input := by
  obtain ⟨env, input⟩ := input
  cases input with
  | transport event =>
    obtain rfl := Option.some.inj hstep
    refine iff_of_false ?_ id
    cases event with
    | connected connection => exact handleConnect_not_lacksWindow secsF64 env connection worker
    | audioPacket packet => exact handlePacket_not_lacksWindow env packet hlacks
    | keepAlive => exact hlacks
    | disconnected reason reconnectSuggested =>
      exact (handleDisconnect_disconnected _ _ _ _).not_lacksWindow
    | error message => exact (setError_disconnected _ _ _).not_lacksWindow
  | setPlaybackTarget targetId =>
    obtain rfl := Option.some.inj hstep
    exact iff_of_false (handlePlaybackTargetChange_not_lacksWindow env targetId hlacks) id
  | tick => exact lacksWindow_onTick h hlacks hstep

end ReceiverWorker

end SynchroSonic
