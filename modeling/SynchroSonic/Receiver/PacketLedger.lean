import SynchroSonic.Machine.FifoLedger
import SynchroSonic.Receiver.WorkerInvariant

/-!
# What becomes of a packet

From a successful connect on, a packet that reaches the worker is played, pushed out of the full
buffer, dropped as stale, or still queued, and the counters say how many met which fate. `Accounts`
is the part of the worker this is about; a handler that leaves it alone cannot upset the books
(`accounts_*`), and the others are one entry each in a `FifoLedger`.
-/

namespace SynchroSonic

namespace ReceiverWorker

/-- What the worker keeps books about. -/
structure Accounts where
  queued : List (List UInt8)
  written : List (List UInt8)
  packetsReceived : ℕ
  packetsPlayed : ℕ
  overruns : ℕ
  latePacketDrops : ℕ

def accounts (worker : ReceiverWorker) : Accounts where
  queued := worker.buffer.packets.map fun buffered ↦ buffered.packet.payload
  written := worker.written.map SinkWrite.payload
  packetsReceived := worker.metrics.packetsReceived
  packetsPlayed := worker.metrics.packetsPlayed
  overruns := worker.metrics.overruns
  latePacketDrops := worker.sync.latePacketDrops

/-- The books since `start`, when `packets` have been received: every packet has come out to a sink,
has been lost in one of the two ways that are counted, or is queued. -/
def Balanced (start : Accounts) (packets : List ReceiverAudioPacket) (now : Accounts) : Prop :=
  ∃ written overruns,
    now.written = start.written ++ written ∧
    now.packetsReceived = start.packetsReceived + packets.length ∧
    now.packetsPlayed = start.packetsPlayed + written.length ∧
    now.overruns = start.overruns + overruns ∧
    FifoLedger (packets.map ReceiverAudioPacket.payload) written now.queued
      (overruns + now.latePacketDrops)

variable {start : Accounts} {packets : List ReceiverAudioPacket} {env : HandlerEnv}
  {worker : ReceiverWorker}

/-! ### Handlers that leave the books alone -/

theorem accounts_settleStates (worker : ReceiverWorker) :
    worker.settleStates.accounts = worker.accounts := by
  obtain ⟨_, _, _, heq, -⟩ := settleStates_eq worker
  rw [heq]
  rfl

theorem accounts_underrun (worker : ReceiverWorker) :
    worker.underrun.accounts = worker.accounts := by
  obtain ⟨_, _, _, _, _, _, heq, hdrops⟩ := underrun_eq worker
  rw [heq]
  simp only [accounts, hdrops]

theorem accounts_handlePlaybackTargetChange (env : HandlerEnv) (targetId : Option String)
    (worker : ReceiverWorker) :
    (worker.handlePlaybackTargetChange env targetId).accounts = worker.accounts := by
  obtain ⟨_, _, _, _, heq, -⟩ := handlePlaybackTargetChange_eq env targetId worker
  rw [heq]
  rfl

/-! ### Entries -/

/-- A packet arrives. If the buffer was full, the oldest one is counted as an overrun. -/
theorem Balanced.countPacket (h : Balanced start packets worker.accounts) {receivedAt : Instant}
    {packet : ReceiverAudioPacket} {frameCount : ℕ} {outcome : BufferPushOutcome}
    {buffer : ReceiverPacketBuffer}
    (heffect : ReceiverPacketBuffer.PushEffect worker.buffer buffer ⟨packet, frameCount⟩ outcome) :
    Balanced start (packets ++ [packet])
      (worker.countPacket receivedAt packet frameCount outcome buffer).accounts := by
  obtain ⟨written, overruns, hwritten, hreceived, hplayed, hoverruns, hledger⟩ := h
  have hreceived' : worker.metrics.packetsReceived + 1 =
      start.packetsReceived + (packets ++ [packet]).length := by
    rw [List.length_append, List.length_singleton, ← Nat.add_assoc]
    exact congrArg (· + 1) hreceived
  cases heffect with
  | accepted hpackets =>
    refine ⟨written, overruns, hwritten, hreceived', hplayed, hoverruns, ?_⟩
    simp only [accounts, ReceiverWorker.countPacket, refreshSyncBufferMetrics, hpackets,
      List.map_append, List.map_cons, List.map_nil]
    exact hledger.push
  | @droppedOldest dropped rest hbefore hfull hpackets =>
    refine ⟨written, overruns + 1, hwritten, hreceived', hplayed,
      congrArg (· + 1) hoverruns, ?_⟩
    simp only [accounts, hbefore, List.map_cons] at hledger
    simp only [accounts, ReceiverWorker.countPacket, refreshSyncBufferMetrics, hpackets,
      List.map_append, List.map_cons, List.map_nil]
    rw [Nat.add_right_comm]
    exact hledger.discard.push

/-- A stale packet is counted and forgotten. -/
theorem Balanced.dropStale (h : Balanced start packets worker.accounts) {packet : BufferedPacket}
    {buffer : ReceiverPacketBuffer} (hpop : worker.buffer.pop = some (packet, buffer))
    (deadline : Instant) (scheduleErrorMs : ℤ) :
    Balanced start packets ((worker.schedule deadline scheduleErrorMs).dropStale buffer).accounts := by
  obtain ⟨written, overruns, hwritten, hreceived, hplayed, hoverruns, hledger⟩ := h
  obtain ⟨hpackets, -, -⟩ := ReceiverPacketBuffer.pop_eq_some hpop
  simp only [accounts, hpackets, List.map_cons] at hledger
  exact ⟨written, overruns, hwritten, hreceived, hplayed, hoverruns, hledger.discard⟩

/-- A packet is played. -/
theorem Balanced.countPlayed (h : Balanced start packets worker.accounts) {packet : BufferedPacket}
    {buffer : ReceiverPacketBuffer} (hpop : worker.buffer.pop = some (packet, buffer))
    (deadline now : Instant) (scheduleErrorMs : ℤ) (sink : PlaybackSink) :
    Balanced start packets (((worker.schedule deadline scheduleErrorMs).withBuffer buffer).countPlayed
      packet scheduleErrorMs ⟨sink, packet.packet.payload, now, deadline⟩).accounts := by
  obtain ⟨written, overruns, hwritten, hreceived, hplayed, hoverruns, hledger⟩ := h
  obtain ⟨hpackets, -, -⟩ := ReceiverPacketBuffer.pop_eq_some hpop
  simp only [accounts, hpackets, List.map_cons] at hledger
  refine ⟨written ++ [packet.packet.payload], overruns, ?_, hreceived, ?_, hoverruns,
    hledger.deliver⟩
  · simp only [accounts, ReceiverWorker.countPlayed, refreshSyncBufferMetrics, measureFill,
      withBuffer, schedule, List.map_append, List.map_cons, List.map_nil, ← List.append_assoc]
    exact congrArg (· ++ [packet.packet.payload]) hwritten
  · rw [List.length_append, List.length_singleton, ← Nat.add_assoc]
    exact congrArg (· + 1) hplayed

/-! ### Draining -/

theorem drainRound_again_balanced {round : ℕ} {next : ReceiverWorker} (hdraining : worker.Draining)
    (h : Balanced start packets worker.accounts)
    (hround : drainRound env round worker = .again next) :
    Balanced start packets next.accounts := by
  have houtcome := drainRound_outcome env round hdraining
  rw [hround] at houtcome
  cases houtcome with
  | stale pop => exact h.dropStale pop _ _
  | played pop => exact h.countPlayed pop _ _ _ _

/-- A drain round that ends the loop leaves the books balanced, or the session is over. -/
theorem drainRound_done_balanced {round : ℕ} {exit : DrainExit} {final : ReceiverWorker}
    (hdraining : worker.Draining) (h : Balanced start packets worker.accounts)
    (hround : drainRound env round worker = .done (exit, final)) :
    final.connection = none ∨ Balanced start packets final.accounts := by
  have houtcome := drainRound_outcome env round hdraining
  rw [hround] at houtcome
  cases houtcome with
  | drained empty => exact Or.inr (by rw [accounts_underrun]; exact h)
  | resynced pop due late empty => exact Or.inr (h.dropStale pop _ _)
  | waiting early => exact Or.inr h
  | writeFailed pop => exact Or.inl (setError_disconnected _ _ _).connection

theorem drainReadyPackets_balanced {exit : DrainExit} {final : ReceiverWorker}
    (hinvariant : worker.Invariant) (h : Balanced start packets worker.accounts)
    (hdrain : worker.drainReadyPackets env = some (exit, final)) :
    final.connection = none ∨ Balanced start packets final.accounts := by
  rcases drainReadyPackets_cases env hinvariant with
    ⟨exit', state, sync, hcase, -, -, hsync⟩ | ⟨hdraining, hcase⟩
  · obtain ⟨-, rfl⟩ := Prod.mk.inj (Option.some.inj (hcase.symm.trans hdrain))
    right
    simpa only [accounts, hsync] using h
  · exact @of_drainLoop env worker (fun worker ↦ Balanced start packets worker.accounts)
      (fun result ↦ result.2.connection = none ∨ Balanced start packets result.2.accounts)
      (fun _ _ _ hdraining h hround ↦ drainRound_again_balanced hdraining h hround)
      (fun _ _ _ hdraining h hround ↦ drainRound_done_balanced hdraining h hround) _ hdraining h
      (hcase.symm.trans hdrain)

/-! ### Steps -/

/-- The packet an input brings, if it brings one. -/
def audioPacketOf : HandlerEnv × WorkerInput → List ReceiverAudioPacket
  | (_, .transport (.audioPacket packet)) => [packet]
  | _ => []

/-- The input opens a new session. -/
def isConnect : HandlerEnv × WorkerInput → Bool
  | (_, .transport (.connected _)) => true
  | _ => false

theorem checkTransportTimeout_balanced (env : HandlerEnv)
    (h : worker.connection = none ∨ Balanced start packets worker.accounts) :
    (worker.checkTransportTimeout env).connection = none ∨
      Balanced start packets (worker.checkTransportTimeout env).accounts := by
  unfold checkTransportTimeout
  split
  · exact h
  split
  · exact Or.inl (handleDisconnect_disconnected _ _ _ _).connection
  · exact h

theorem onTick_balanced {next : ReceiverWorker} (hinvariant : worker.Invariant)
    (h : worker.connection = none ∨ Balanced start packets worker.accounts)
    (hstep : worker.onTick env = some next) :
    next.connection = none ∨ Balanced start packets next.accounts := by
  obtain ⟨exit, final, hdrain, rfl⟩ := onTick_eq_some hstep
  refine checkTransportTimeout_balanced env ?_
  rcases h with hnone | h
  · left
    rw [drainReadyPackets, hnone] at hdrain
    obtain ⟨-, rfl⟩ := Prod.mk.inj (Option.some.inj hdrain)
    exact hnone
  · exact drainReadyPackets_balanced hinvariant h hdrain

theorem handlePacket_balanced (env : HandlerEnv) (packet : ReceiverAudioPacket)
    (h : worker.connection = none ∨ Balanced start packets worker.accounts) :
    (worker.handlePacket env packet).connection = none ∨
      Balanced start (packets ++ [packet]) (worker.handlePacket env packet).accounts := by
  rcases hconnection : worker.connection with - | connection
  · rw [handlePacket, hconnection]
    exact Or.inl hconnection
  have h : Balanced start packets worker.accounts := by simpa [hconnection] using h
  simp only [handlePacket, hconnection]
  split
  · exact Or.inl (setError_disconnected _ _ _).connection
  next frameCount hcount =>
  split
  · exact Or.inl (setError_disconnected _ _ _).connection
  next outcome buffer hpush =>
    obtain ⟨frameCount', hcount', heffect, -, -⟩ := ReceiverPacketBuffer.push_eq_ok hpush
    obtain rfl := Except.ok.inj (hcount.symm.trans hcount')
    right
    rw [accounts_settleStates]
    exact @Balanced.countPacket _ _ (worker.openSyncWindow (env.now 0) packet) h _ _ _ _ _ heffect

/-- **A step keeps the books**, as long as no new session opens. -/
theorem step_balanced {secsF64 : SecsF64} {input : HandlerEnv × WorkerInput} {next : ReceiverWorker}
    (hinvariant : worker.Invariant)
    (h : worker.connection = none ∨ Balanced start packets worker.accounts)
    (hinput : isConnect input = false) (hstep : worker.step secsF64 input = some next) :
    next.connection = none ∨ Balanced start (packets ++ audioPacketOf input) next.accounts := by
  obtain ⟨env, input⟩ := input
  cases input with
  | transport event =>
    obtain rfl := Option.some.inj hstep
    cases event with
    | connected connection => exact nomatch hinput
    | audioPacket packet => exact handlePacket_balanced env packet h
    | keepAlive =>
      rw [show audioPacketOf (env, .transport .keepAlive) = [] from rfl, List.append_nil]
      exact h
    | disconnected reason reconnectSuggested =>
      exact Or.inl (handleDisconnect_disconnected _ _ _ _).connection
    | error message => exact Or.inl (setError_disconnected _ _ _).connection
  | setPlaybackTarget targetId =>
    obtain rfl := Option.some.inj hstep
    rw [handlePlaybackTargetChange_connection, accounts_handlePlaybackTargetChange]
    simpa [audioPacketOf] using h
  | tick =>
    have := onTick_balanced hinvariant h hstep
    simpa [audioPacketOf] using this

theorem handleConnect_balanced (secsF64 : SecsF64) (env : HandlerEnv)
    (connection : ReceiverConnectionInfo) (worker : ReceiverWorker) :
    (worker.handleConnect secsF64 env connection).connection = none ∨
      Balanced (worker.handleConnect secsF64 env connection).accounts []
        (worker.handleConnect secsF64 env connection).accounts := by
  obtain ⟨lastError, hstop⟩ := stopPlaybackSink_eq env worker
  simp only [handleConnect, hstop]
  split
  · exact Or.inr ⟨[], 0, by simp, rfl, rfl, rfl, .empty⟩
  · exact Or.inl (setError_disconnected _ _ _).connection

/-- **No packet is lost silently, duplicated or reordered.** Take any run of the worker from a connect
on, in which no other session opens and at the end of which the connection still stands. The packets
received since the connect are the packets that arrived: those that were played, those counted as
overruns, those counted as late and those in the buffer. The payloads the sinks took since the connect,
as many as packets were played, are payloads of the packets that arrived, in that order and each at most
once. -/
theorem no_packet_lost_silently (secsF64 : SecsF64) (env : HandlerEnv)
    (connection : ReceiverConnectionInfo) (worker final : ReceiverWorker)
    (inputs : List (HandlerEnv × WorkerInput)) (hinputs : ∀ input ∈ inputs, isConnect input = false)
    (hrun : Transition.run (step secsF64) (worker.handleConnect secsF64 env connection) inputs =
      some final) (hconnection : final.connection.isSome = true) :
    ∃ played overruns written,
      final.metrics.packetsPlayed =
        (worker.handleConnect secsF64 env connection).metrics.packetsPlayed + played ∧
      final.metrics.overruns =
        (worker.handleConnect secsF64 env connection).metrics.overruns + overruns ∧
      final.metrics.packetsReceived =
        (worker.handleConnect secsF64 env connection).metrics.packetsReceived +
          (played + overruns + final.sync.latePacketDrops + final.buffer.packets.length) ∧
      final.metrics.packetsReceived =
        (worker.handleConnect secsF64 env connection).metrics.packetsReceived +
          (inputs.flatMap audioPacketOf).length ∧
      played = written.length ∧
      final.written.map SinkWrite.payload =
        (worker.handleConnect secsF64 env connection).written.map SinkWrite.payload ++ written ∧
      written.Sublist ((inputs.flatMap audioPacketOf).map ReceiverAudioPacket.payload) := by
  -- every step keeps the books balanced until the session is gone
  have hbooks := @Transition.run_history _ _ (step secsF64)
    (fun inputs reached ↦ (∀ input ∈ inputs, isConnect input = false) → reached.Invariant ∧
      (reached.connection = none ∨
        Balanced (worker.handleConnect secsF64 env connection).accounts
          (inputs.flatMap audioPacketOf) reached.accounts))
    (fun before reached input next hreached hstep hinputs ↦ by
      obtain ⟨hinvariant, hbalanced⟩ :=
        hreached fun input hmem ↦ hinputs input (List.mem_append_left _ hmem)
      obtain ⟨next', hstep', hnext⟩ := step_invariant secsF64 input hinvariant
      obtain rfl := Option.some.inj (hstep'.symm.trans hstep)
      refine ⟨hnext, ?_⟩
      rw [List.flatMap_append, List.flatMap_singleton]
      exact step_balanced hinvariant hbalanced (hinputs input (by simp)) hstep)
    _ _ _ (fun _ ↦ ⟨handleConnect_invariant secsF64 env connection worker,
      handleConnect_balanced secsF64 env connection worker⟩) hrun
  rcases (hbooks hinputs).2 with hnone | hbalanced
  · simp [hnone] at hconnection
  · obtain ⟨written, overruns, hwritten, hreceived, hplayed, hoverruns, hledger⟩ := hbalanced
    have hbalance := hledger.balance
    refine ⟨written.length, overruns, written, hplayed, hoverruns, ?_, hreceived, rfl, hwritten,
      hledger.delivered_sublist⟩
    simp only [accounts, List.length_map] at hreceived hbalance
    omega

/-- A connection that announces packets of one frame at 1 Hz: one packet makes the buffer ready. -/
def slowConnection : ReceiverConnectionInfo where
  sessionId := "session-1"
  remoteAddr := none
  stream := { sampleRateHz := 1, channels := 1, sampleFormat := .s16Le, framesPerPacket := 1 }
  requestedLatencyMs := 30

/-- Two packets arrive and one of them is played. -/
theorem no_packet_lost_silently_two_packets :
    ∃ final played overruns written,
      Transition.run (step fun _ _ ↦ 1000000000)
          ((new (fun _ _ ↦ 1000000000) none .lowLatency).handleConnect (fun _ _ ↦ 1000000000)
            (calmEnv 0) slowConnection)
          [(calmEnv 0, .transport (.audioPacket ⟨0, 0, 0, [1, 2]⟩)),
            (calmEnv 0, .transport (.audioPacket ⟨1, 1000, 1000, [3, 4]⟩)),
            (calmEnv 30000000, .tick)] = some final ∧
      final.metrics.packetsReceived =
        0 + (played + overruns + final.sync.latePacketDrops + final.buffer.packets.length) ∧
      final.metrics.packetsReceived = 2 ∧ played = written.length ∧
      written.Sublist [[1, 2], [3, 4]] ∧ final.written.map SinkWrite.payload = [] ++ written := by
  obtain ⟨played, overruns, written, -, -, hreceived, harrived, hplayed, hwritten, hsublist⟩ :=
    no_packet_lost_silently (fun _ _ ↦ 1000000000) (calmEnv 0) slowConnection
      (new (fun _ _ ↦ 1000000000) none .lowLatency) _
      [(calmEnv 0, .transport (.audioPacket ⟨0, 0, 0, [1, 2]⟩)),
        (calmEnv 0, .transport (.audioPacket ⟨1, 1000, 1000, [3, 4]⟩)),
        (calmEnv 30000000, .tick)]
      (by simp [isConnect]) rfl rfl
  exact ⟨_, played, overruns, written, rfl, hreceived, harrived, hplayed, hsublist, hwritten⟩

end ReceiverWorker

end SynchroSonic
