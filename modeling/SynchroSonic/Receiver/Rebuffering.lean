import SynchroSonic.Receiver.PlayingState

/-!
# Buffering after a reset

What a reset of the sync timeline should leave: a worker that reports `Buffering` until it has played a
packet in the new window. A worker that buffers does so until it plays or its session ends
(`buffersPast_step`), whatever arrives; so it is enough that the reset itself ends in `Buffering`, which
it does unless the tick was one that loses the window.

`playing_in_window_iff` is the statement over runs: the window is kept while playing, and resets are
followed by buffering, exactly when no tick of the run loses the window.
-/

namespace SynchroSonic

namespace ReceiverWorker

variable {secsF64 : SecsF64} {env : HandlerEnv} {worker next : ReceiverWorker}

/-! ### After a reset -/

/-- More than `played` payloads were written by now; if not, the worker is still buffering. -/
def BuffersPast (played : ℕ) (worker : ReceiverWorker) : Prop :=
  played < worker.written.length ∨ worker.state = .buffering ∧ played ≤ worker.written.length

/-- Whoever writes nothing may leave any state but `Buffering`. -/
theorem BuffersPast.of_state {played : ℕ} (h : worker.BuffersPast played)
    (hwritten : next.written = worker.written)
    (hstate : worker.state = .buffering → next.state = .buffering) : next.BuffersPast played := by
  rcases h with hplayed | ⟨hbuffering, hle⟩
  · exact Or.inl (by rwa [hwritten])
  · exact Or.inr ⟨hstate hbuffering, by rwa [hwritten]⟩

/-- A round that goes on writes a packet, or drops one and writes nothing. -/
theorem BuffersPast.drainRound_again {played round : ℕ} (h : worker.BuffersPast played)
    (hdraining : worker.Draining) (hround : drainRound env round worker = .again next) :
    next.BuffersPast played := by
  have houtcome := drainRound_outcome env round hdraining
  rw [hround] at houtcome
  cases houtcome with
  | stale pop => exact h.of_state rfl id
  | played pop =>
    have hle : played ≤ worker.written.length := h.elim Nat.le_of_lt And.right
    left
    show _ < (worker.written ++ [_]).length
    rw [List.length_append, List.length_singleton]
    omega

/-- To wait for the next packet is no reason to stop buffering. -/
theorem awaitPacket_buffering (h : worker.state = .buffering) :
    worker.awaitPacket.state = .buffering := by
  rw [awaitPacket, h]
  rfl

/-- The last round ends the session, or keeps this. -/
theorem BuffersPast.drainRound_done {played round : ℕ} {exit : DrainExit}
    (h : worker.BuffersPast played) (hdraining : worker.Draining)
    (hround : drainRound env round worker = .done (exit, next)) :
    next.connection = none ∨ next.BuffersPast played := by
  have houtcome := drainRound_outcome env round hdraining
  rw [hround] at houtcome
  cases houtcome with
  | drained empty =>
    refine Or.inr (h.of_state (underrun_written _) fun hbuffering ↦ ?_)
    unfold underrun
    split
    · rfl
    · exact hbuffering
  | resynced pop due late empty => exact Or.inr (h.of_state rfl id)
  | waiting early => exact Or.inr (h.of_state rfl fun hbuffering ↦ awaitPacket_buffering hbuffering)
  | writeFailed pop => exact Or.inl (setError_disconnected _ _ _).connection

/-- So does the loop. -/
theorem BuffersPast.drainReadyPackets {played : ℕ} {exit : DrainExit} (h : worker.BuffersPast played)
    (hinvariant : worker.Invariant) (hdrain : worker.drainReadyPackets env = some (exit, next)) :
    next.connection = none ∨ next.BuffersPast played := by
  have hstart := drainReadyPackets_start env hinvariant
  generalize worker.drainReadyPackets env = result at hstart hdrain
  cases hstart with
  | notConnected connection =>
    obtain ⟨-, rfl⟩ := Prod.mk.inj (Option.some.inj hdrain)
    exact Or.inl connection
  | noClock clock =>
    obtain ⟨-, rfl⟩ := Prod.mk.inj (Option.some.inj hdrain)
    refine Or.inr (h.of_state rfl fun hbuffering ↦ ?_)
    show (if worker.state = .connected then _ else _) = _
    rw [hbuffering]
    rfl
  | notReady clock notReady =>
    obtain ⟨-, rfl⟩ := Prod.mk.inj (Option.some.inj hdrain)
    exact Or.inr (h.of_state rfl fun hbuffering ↦ awaitPacket_buffering hbuffering)
  | drains draining ready =>
    exact @of_drainLoop env worker (BuffersPast played)
      (fun result ↦ result.2.connection = none ∨ result.2.BuffersPast played)
      (fun _ _ _ hdraining h hround ↦ h.drainRound_again hdraining hround)
      (fun _ _ _ hdraining h hround ↦ h.drainRound_done hdraining hround) _ draining h hdrain

/-- **A tick** leaves a buffering worker buffering until it has written something. -/
theorem onTick_buffersPast {played : ℕ} (hinvariant : worker.Invariant)
    (h : worker.connection = none ∨ worker.BuffersPast played)
    (hstep : worker.onTick env = some next) : next.connection = none ∨ next.BuffersPast played := by
  obtain ⟨exit, final, hdrain, hnext⟩ := onTick_cases hstep
  have hfinal : final.connection = none ∨ final.BuffersPast played := by
    rcases h with hnone | hpast
    · rw [drainReadyPackets, hnone] at hdrain
      obtain ⟨-, rfl⟩ := Prod.mk.inj (Option.some.inj hdrain)
      exact Or.inl hnone
    · exact hpast.drainReadyPackets hinvariant hdrain
  rcases hnext with ⟨sync, rfl⟩ | ⟨hdisconnected, -⟩
  · exact hfinal
  · exact Or.inl hdisconnected.connection

theorem settleStates_written (worker : ReceiverWorker) :
    worker.settleStates.written = worker.written := by
  obtain ⟨_, _, _, heq, -⟩ := settleStates_eq worker
  rw [heq]

theorem settleStates_buffering (h : worker.state = .buffering) :
    worker.settleStates.state = .buffering := by
  unfold settleStates
  split
  · simp [h]
  · simp [h]

/-- So does a packet. -/
theorem handlePacket_buffersPast {played : ℕ} (env : HandlerEnv) (packet : ReceiverAudioPacket)
    (h : worker.connection = none ∨ worker.BuffersPast played) :
    (worker.handlePacket env packet).connection = none ∨
      (worker.handlePacket env packet).BuffersPast played := by
  rcases hconnection : worker.connection with - | connection
  · rw [handlePacket, hconnection]
    exact Or.inl hconnection
  have hpast : worker.BuffersPast played := by simpa [hconnection] using h
  simp only [handlePacket, hconnection]
  split
  · exact Or.inl (setError_disconnected _ _ _).connection
  split
  · exact Or.inl (setError_disconnected _ _ _).connection
  · exact Or.inr (hpast.of_state (settleStates_written _) fun hbuffering ↦
      settleStates_buffering hbuffering)

/-- And so does another target. -/
theorem handlePlaybackTargetChange_buffersPast {played : ℕ} (env : HandlerEnv)
    (targetId : Option String) (h : worker.BuffersPast played) :
    (worker.handlePlaybackTargetChange env targetId).connection = none ∨
      (worker.handlePlaybackTargetChange env targetId).BuffersPast played := by
  rcases hconnection : worker.connection with - | connection
  · exact Or.inl ((handlePlaybackTargetChange_connection env targetId worker).trans hconnection)
  right
  simp only [handlePlaybackTargetChange, hconnection]
  split
  · obtain ⟨lastError, hstop⟩ := stopPlaybackSink_eq env
      { worker with playbackTargetId := targetId, lastError := none }
    simp only [hconnection] at hstop
    rw [hstop]
    refine h.of_state rfl fun hbuffering ↦ ?_
    show (if worker.state = .connected then _ else _) = _
    rw [hbuffering]
    rfl
  · exact h.of_state rfl id

/-- **A worker that buffers goes on buffering until it has played a packet**, while its session
lasts. -/
theorem buffersPast_step {played : ℕ} {input : HandlerEnv × WorkerInput} (hinvariant : worker.Invariant)
    (h : worker.connection = none ∨ worker.BuffersPast played) (hinput : isConnect input = false)
    (hstep : worker.step secsF64 input = some next) :
    next.connection = none ∨ next.BuffersPast played := by
  obtain ⟨env, input⟩ := input
  cases input with
  | transport event =>
    obtain rfl := Option.some.inj hstep
    cases event with
    | connected connection => cases hinput
    | audioPacket packet => exact handlePacket_buffersPast env packet h
    | keepAlive => exact h
    | disconnected reason reconnectSuggested =>
      exact Or.inl (handleDisconnect_disconnected _ _ _ _).connection
    | error message => exact Or.inl (setError_disconnected _ _ _).connection
  | setPlaybackTarget targetId =>
    obtain rfl := Option.some.inj hstep
    rcases h with hnone | hpast
    · exact Or.inl ((handlePlaybackTargetChange_connection env targetId worker).trans hnone)
    · exact handlePlaybackTargetChange_buffersPast env targetId hpast
  | tick => exact onTick_buffersPast hinvariant h hstep

/-! ### The start of a session -/

/-- A window is only open past the `Connected` state. -/
def Opened (worker : ReceiverWorker) : Prop :=
  worker.syncClock.isSome = true → worker.state ≠ .connected

/-- A worker without a session has no window. -/
theorem Disconnected.opened (h : worker.Disconnected) : worker.Opened := by
  intro hclock
  rw [h.syncClock] at hclock
  exact absurd hclock Bool.false_ne_true

/-- Behind its first packet a session buffers or plays. -/
theorem settleStates_not_connected (worker : ReceiverWorker) :
    worker.settleStates.state ≠ .connected := by
  unfold settleStates
  split
  · show (if worker.state = .playing then ReceiverServiceState.playing else .buffering) ≠ _
    split <;> exact ReceiverServiceState.noConfusion
  split
  · exact ReceiverServiceState.noConfusion
  next hstate => exact fun hconnected ↦ hstate (Or.inl hconnected)

/-- A round of the loop does not lead back to `Connected`. -/
theorem drainRound_again_not_connected {round : ℕ} (hdraining : worker.Draining)
    (h : worker.state ≠ .connected) (hround : drainRound env round worker = .again next) :
    next.state ≠ .connected := by
  have houtcome := drainRound_outcome env round hdraining
  rw [hround] at houtcome
  cases houtcome with
  | stale pop => exact h
  | played pop => exact ReceiverServiceState.noConfusion

/-- Waiting does not. -/
theorem awaitPacket_not_connected (worker : ReceiverWorker) :
    worker.awaitPacket.state ≠ .connected := by
  unfold awaitPacket
  dsimp only
  split <;> exact ReceiverServiceState.noConfusion

/-- The last round does not. -/
theorem drainRound_done_not_connected {round : ℕ} {exit : DrainExit} (hdraining : worker.Draining)
    (h : worker.state ≠ .connected) (hround : drainRound env round worker = .done (exit, next)) :
    next.state ≠ .connected := by
  have houtcome := drainRound_outcome env round hdraining
  rw [hround] at houtcome
  cases houtcome with
  | drained empty =>
    unfold underrun
    split
    · exact ReceiverServiceState.noConfusion
    · exact h
  | resynced pop due late empty => exact h
  | waiting early => exact awaitPacket_not_connected _
  | writeFailed pop => exact ReceiverServiceState.noConfusion

/-- Nor does the loop. -/
theorem drainReadyPackets_not_connected {exit : DrainExit} (hinvariant : worker.Invariant)
    (h : worker.state ≠ .connected) (hdrain : worker.drainReadyPackets env = some (exit, next)) :
    next.state ≠ .connected := by
  have hstart := drainReadyPackets_start env hinvariant
  generalize worker.drainReadyPackets env = result at hstart hdrain
  cases hstart with
  | notConnected connection =>
    obtain ⟨-, rfl⟩ := Prod.mk.inj (Option.some.inj hdrain)
    exact h
  | noClock clock =>
    obtain ⟨-, rfl⟩ := Prod.mk.inj (Option.some.inj hdrain)
    show (if worker.state = .connected then _ else _) ≠ _
    rwa [if_neg h]
  | notReady clock notReady =>
    obtain ⟨-, rfl⟩ := Prod.mk.inj (Option.some.inj hdrain)
    exact awaitPacket_not_connected worker
  | drains draining ready =>
    exact @of_drainLoop env worker (fun worker ↦ worker.state ≠ .connected)
      (fun result ↦ result.2.state ≠ .connected)
      (fun _ _ _ hdraining h hround ↦ drainRound_again_not_connected hdraining h hround)
      (fun _ _ _ hdraining h hround ↦ drainRound_done_not_connected hdraining h hround)
      _ draining h hdrain

/-- **No tick leads back to `Connected`.** -/
theorem onTick_not_connected (hinvariant : worker.Invariant) (h : worker.state ≠ .connected)
    (hstep : worker.onTick env = some next) : next.state ≠ .connected := by
  obtain ⟨exit, final, hdrain, hnext⟩ := onTick_cases hstep
  have hfinal := drainReadyPackets_not_connected hinvariant h hdrain
  rcases hnext with ⟨sync, rfl⟩ | ⟨hdisconnected, -⟩
  · exact hfinal
  · intro hconnected
    have hactive := hdisconnected.state
    rw [hconnected] at hactive
    cases hactive

/-- A packet opens the window and leaves `Connected` in one step. -/
theorem handlePacket_opened (env : HandlerEnv) (packet : ReceiverAudioPacket) (h : worker.Opened) :
    (worker.handlePacket env packet).Opened := by
  unfold handlePacket
  split
  · exact h
  dsimp only
  split
  · exact (setError_disconnected _ _ _).opened
  split
  · exact (setError_disconnected _ _ _).opened
  · exact fun _ ↦ settleStates_not_connected _

/-- A change of the target opens no window. -/
theorem handlePlaybackTargetChange_opened (env : HandlerEnv) (targetId : Option String)
    (h : worker.Opened) : (worker.handlePlaybackTargetChange env targetId).Opened := by
  obtain ⟨_, _, state, _, heq, hstate⟩ := handlePlaybackTargetChange_eq env targetId worker
  rw [heq]
  intro hclock
  show state ≠ .connected
  rcases hstate with rfl | ⟨-, rfl⟩ | ⟨-, rfl⟩
  · exact h hclock
  · exact ReceiverServiceState.noConfusion
  · exact ReceiverServiceState.noConfusion

/-- **Every step keeps the window closed in `Connected`.** -/
theorem opened_step {input : HandlerEnv × WorkerInput} (hinvariant : worker.Invariant)
    (h : worker.Opened) (hstep : worker.step secsF64 input = some next) : next.Opened := by
  obtain ⟨env, input⟩ := input
  cases input with
  | transport event =>
    obtain rfl := Option.some.inj hstep
    cases event with
    | connected connection =>
      intro hclock
      have hwindow := (handleConnect_windowStep secsF64 env connection worker none []).queue
      have hnone := hwindow.elim And.left And.left
      rw [handleTransportEvent, hnone] at hclock
      exact absurd hclock Bool.false_ne_true
    | audioPacket packet => exact handlePacket_opened env packet h
    | keepAlive => exact h
    | disconnected reason reconnectSuggested =>
      exact (handleDisconnect_disconnected _ _ _ _).opened
    | error message => exact (setError_disconnected _ _ _).opened
  | setPlaybackTarget targetId =>
    obtain rfl := Option.some.inj hstep
    exact handlePlaybackTargetChange_opened env targetId h
  | tick =>
    intro hclock
    refine onTick_not_connected hinvariant (h ?_) hstep
    rcases (onTick_windowStep hinvariant hstep).queue with ⟨hkept, -⟩ | ⟨hnone, -⟩
    · rwa [← hkept]
    · rw [hnone] at hclock
      exact absurd hclock Bool.false_ne_true

/-! ### The main statement -/

/-- Whenever a tick closes the window, the worker reports `Buffering` from then on, until it has played a
packet or its session is over. -/
def RebuffersAfterReset (secsF64 : SecsF64) (start : ReceiverWorker)
    (inputs : List (HandlerEnv × WorkerInput)) : Prop :=
  ∀ before env mid worker reset later, before ++ (env, .tick) :: mid <+: inputs →
    Transition.run (step secsF64) start before = some worker → worker.syncClock.isSome = true →
    worker.step secsF64 (env, .tick) = some reset → reset.syncClock = none →
    Transition.run (step secsF64) reset mid = some later →
    (∀ input ∈ mid, isConnect input = false) → later.connection.isSome = true →
    later.written = reset.written → later.state = .buffering

/-- `Playing` is reported only while a window is open. -/
def KeepsWindow (worker : ReceiverWorker) : Prop :=
  worker.state = .playing → worker.syncClock.isSome = true

/-- The two ways to say it. -/
theorem keepsWindow_iff : worker.KeepsWindow ↔ ¬worker.LacksWindow := by
  rw [LacksWindow, not_and, ← ne_eq, ← Option.isSome_iff_ne_none]
  rfl

/-- The invariants of a run together. -/
def Regular (worker : ReceiverWorker) : Prop := worker.Invariant ∧ worker.Opened

/-- Every input can be taken, and keeps both invariants. -/
theorem regular_step (secsF64 : SecsF64) (input : HandlerEnv × WorkerInput) (h : worker.Regular) :
    ∃ next, worker.step secsF64 input = some next ∧ next.Regular := by
  obtain ⟨next, hstep, hnext⟩ := step_invariant secsF64 input h.1
  exact ⟨next, hstep, hnext, opened_step h.1 h.2 hstep⟩

/-- A new worker has no session. -/
theorem regular_new (secsF64 : SecsF64) (playbackTargetId : Option String)
    (latencyPreset : ReceiverLatencyPreset) :
    (new secsF64 playbackTargetId latencyPreset).Regular :=
  ⟨.new secsF64 playbackTargetId latencyPreset,
    Disconnected.opened ⟨rfl, rfl, rfl, rfl, rfl, rfl⟩⟩

/-- Only a tick loses a window, and only where there is one. -/
theorem LosesWindow.cases {input : HandlerEnv × WorkerInput} (h : worker.LosesWindow input) :
    ∃ env, input = (env, .tick) ∧ ¬worker.LacksWindow := by
  obtain ⟨env, input⟩ := input
  cases input with
  | transport event => exact h.elim
  | setPlaybackTarget targetId => exact h.elim
  | tick => exact ⟨env, rfl, fun hlacks ↦ h.2.1.clock hlacks.2⟩

/-- A tick that closes the window and keeps it while playing leaves the worker buffering, or without a
session. -/
theorem buffering_of_reset (hregular : worker.Regular) (hclock : worker.syncClock.isSome = true)
    (hstep : worker.step secsF64 (env, .tick) = some next) (hreset : next.syncClock = none)
    (hkeeps : next.KeepsWindow) : next.connection = none ∨ next.state = .buffering := by
  rcases hconnection : next.connection with - | connection
  · exact Or.inl rfl
  right
  obtain ⟨next', hstep', hinvariant, -⟩ := regular_step secsF64 (env, .tick) hregular
  obtain rfl := Option.some.inj (hstep'.symm.trans hstep)
  have hactive := hinvariant.active.2 (by rw [hconnection, Option.isSome_some])
  have hnotConnected := onTick_not_connected hregular.1 (hregular.2 hclock) hstep
  have hnotPlaying : next'.state ≠ .playing := fun hplaying ↦ by
    have hsome := hkeeps hplaying
    rw [hreset] at hsome
    exact Bool.false_ne_true hsome
  cases hstate : next'.state with
  | buffering => rfl
  | connected => exact absurd hstate hnotConnected
  | playing => exact absurd hstate hnotPlaying
  | idle | listening | error =>
    rw [hstate] at hactive
    exact absurd hactive Bool.false_ne_true

variable {inputs : List (HandlerEnv × WorkerInput)}

/-- The invariants hold along every run. -/
theorem regular_run (h : worker.Regular)
    (hrun : Transition.run (step secsF64) worker inputs = some next) : next.Regular :=
  Transition.run_invariant (fun worker input next hworker hstep ↦ by
    obtain ⟨next', hstep', hnext⟩ := regular_step secsF64 input hworker
    obtain rfl := Option.some.inj (hstep'.symm.trans hstep)
    exact hnext) h hrun

/-- **`Playing` is kept to open windows throughout** exactly if no tick loses one. -/
theorem keepsWindow_throughout_iff (h : worker.Regular) (hkeeps : worker.KeepsWindow) :
    Transition.Throughout (step secsF64) KeepsWindow worker inputs ↔
      Transition.Along (step secsF64) (fun worker input ↦ ¬worker.LosesWindow input) worker
        inputs := by
  refine Transition.throughout_iff_along (fun worker input hregular hkeeps ↦ ?_) h hkeeps
  obtain ⟨next, hstep, hnext⟩ := regular_step secsF64 input hregular
  refine ⟨next, hstep, hnext, keepsWindow_iff.trans (not_congr ?_)⟩
  exact lacksWindow_step hregular.1 (keepsWindow_iff.1 hkeeps) hstep

/-- A tick that loses the window is itself a reset after which the worker does not buffer. -/
theorem along_of_rebuffers (h : worker.Regular)
    (hrebuffers : RebuffersAfterReset secsF64 worker inputs) :
    Transition.Along (step secsF64) (fun worker input ↦ ¬worker.LosesWindow input) worker inputs := by
  refine Transition.along_of_prefix fun before input reached hbefore hrun hloses ↦ ?_
  obtain ⟨env, rfl, hlacks⟩ := hloses.cases
  have hreached := regular_run h hrun
  obtain ⟨reset, hstep, hreset, -⟩ := regular_step secsF64 (env, .tick) hreached
  obtain ⟨hplaying, hclock⟩ := (lacksWindow_step hreached.1 hlacks hstep).2 hloses
  have hconnection := hreset.active.1 (by rw [hplaying]; rfl)
  have hbuffering := hrebuffers before env [] reached reset reset hbefore hrun
    (Option.isSome_iff_ne_none.2 hloses.2.1.clock) hstep hclock rfl
    (fun _ hmem ↦ absurd hmem List.not_mem_nil) hconnection rfl
  exact ReceiverServiceState.noConfusion (hplaying.symm.trans hbuffering)

/-- After a reset that keeps the window's promise the worker buffers until a packet is played. -/
theorem rebuffers_of_throughout (h : worker.Regular)
    (hkept : Transition.Throughout (step secsF64) KeepsWindow worker inputs) :
    RebuffersAfterReset secsF64 worker inputs := by
  intro before env mid reached reset later hbefore hrun hclock hstep hreset hmid hquiet hconnection
    hwritten
  have hreached := regular_run h hrun
  have hrunReset : Transition.run (step secsF64) worker (before ++ [(env, .tick)]) = some reset :=
    Transition.run_append_singleton.2 ⟨reached, hrun, hstep⟩
  have hresetKept := hkept (before ++ [(env, .tick)]) reset
    ((List.prefix_append_right_inj before).2 (List.cons_prefix_cons.2 ⟨rfl, List.nil_prefix⟩)
      |>.trans hbefore) hrunReset
  -- without a connect the session only ends, plays or goes on buffering
  have hlater := @Transition.run_invariant_along _ _ (step secsF64)
    (fun _ input ↦ isConnect input = false)
    (fun worker ↦ worker.Regular ∧
      (worker.connection = none ∨ worker.BuffersPast reset.written.length))
    (fun worker input next hworker hinput hstep ↦ by
      obtain ⟨next', hstep', hnext⟩ := regular_step secsF64 input hworker.1
      obtain rfl := Option.some.inj (hstep'.symm.trans hstep)
      exact ⟨hnext, buffersPast_step hworker.1.1 hworker.2 hinput hstep⟩)
    _ _ _ ⟨regular_run h hrunReset,
      (buffering_of_reset hreached hclock hstep hreset hresetKept).imp_right fun hbuffering ↦
        Or.inr ⟨hbuffering, Nat.le_refl _⟩⟩
    (Transition.along_of_forall (fun input hmem _ ↦ hquiet input hmem) reset) hmid
  rcases hlater.2 with hnone | hplayed | ⟨hbuffering, -⟩
  · rw [hnone] at hconnection
    exact absurd hconnection Bool.false_ne_true
  · rw [hwritten] at hplayed
    exact absurd hplayed (Nat.lt_irrefl _)
  · exact hbuffering

/-- **Playing is reported only inside a window, but for the last packet.** In every run of the worker,
`Playing` is reported only while a sync window is open, in every state the run comes through, exactly
when no tick drains the queue with the last packet stale during playback. And exactly then every window
that is closed leaves the worker `Buffering` until it has played a packet. -/
theorem playing_in_window_iff (secsF64 : SecsF64) (playbackTargetId : Option String)
    (latencyPreset : ReceiverLatencyPreset) (inputs : List (HandlerEnv × WorkerInput)) :
    (Transition.Throughout (step secsF64) KeepsWindow (new secsF64 playbackTargetId latencyPreset)
        inputs ↔
      Transition.Along (step secsF64) (fun worker input ↦ ¬worker.LosesWindow input)
        (new secsF64 playbackTargetId latencyPreset) inputs) ∧
    (RebuffersAfterReset secsF64 (new secsF64 playbackTargetId latencyPreset) inputs ↔
      Transition.Along (step secsF64) (fun worker input ↦ ¬worker.LosesWindow input)
        (new secsF64 playbackTargetId latencyPreset) inputs) := by
  have hregular := regular_new secsF64 playbackTargetId latencyPreset
  have hkeeps : (new secsF64 playbackTargetId latencyPreset).KeepsWindow :=
    fun hplaying ↦ ReceiverServiceState.noConfusion hplaying
  have hthroughout := @keepsWindow_throughout_iff secsF64 _ inputs hregular hkeeps
  refine ⟨hthroughout, along_of_rebuffers hregular, fun halong ↦ ?_⟩
  exact rebuffers_of_throughout hregular (hthroughout.2 halong)

/-- A stream of packets of ten milliseconds. -/
def tenMillisConnection : ReceiverConnectionInfo where
  sessionId := "session-1"
  remoteAddr := none
  stream := { sampleRateHz := 100, channels := 1, sampleFormat := .s16Le, framesPerPacket := 1 }
  requestedLatencyMs := 30

/-- Three packets arrive, the first is played when it is due, and the next tick is late: the other two
are stale by then. -/
def lateTick : List (HandlerEnv × WorkerInput) :=
  [(calmEnv 0, .transport (.connected tenMillisConnection)),
    (calmEnv 0, .transport (.audioPacket ⟨0, 0, 0, [1, 2]⟩)),
    (calmEnv 0, .transport (.audioPacket ⟨1, 10, 10, [3, 4]⟩)),
    (calmEnv 0, .transport (.audioPacket ⟨2, 20, 20, [5, 6]⟩)),
    (calmEnv (Duration.fromMillis 30), .tick),
    (calmEnv (Duration.fromMillis 80), .tick)]

/-- What an observer sees at the end of a run. -/
def reportAfter (inputs : List (HandlerEnv × WorkerInput)) :
    Option (ReceiverServiceState × Option SyncClock × ℕ) :=
  (Transition.run (step fun frames rate ↦ frames * 1000000000 / rate)
    (new (fun frames rate ↦ frames * 1000000000 / rate) none .lowLatency) inputs).map
      fun worker ↦ (worker.state, worker.syncClock, worker.written.length)

/-- The worker reports `Playing` with no window open, and a packet that opens the next one leaves it at
that, before anything has been played in it. -/
theorem playing_without_window :
    reportAfter lateTick = some (.playing, none, 1) ∧
      reportAfter (lateTick ++
          [(calmEnv (Duration.fromMillis 90), .transport (.audioPacket ⟨3, 90, 90, [7, 8]⟩))]) =
        some (.playing, some ⟨Duration.fromMillis 90, 90⟩, 1) := by
  constructor <;> decide

end ReceiverWorker

end SynchroSonic
