import SynchroSonic.Receiver.LiveSession

/-!
# The loop of the worker and its clock

`receiver_worker_loop` with an explicit clock. Handlers take no time; `recv_timeout` returns the next
command if it arrives before the wait is over, and runs a tick otherwise. Which of the two happens is
decided by the moments at which the commands arrive, and by nothing else.

Packets are played in a tick. A wait begins anew with every command and is never shorter than five
milliseconds, so commands that arrive closer than that keep the ticks away: `Starves` says that a packet
has been due for too long. `never_starved` says which schedules of commands do not let that happen.
-/

namespace SynchroSonic

/-! ### The loop -/

/-- A command that is put into the channel. -/
structure Arrival where
  moment : Instant
  command : ReceiverCommand
  deriving DecidableEq, Repr

/-- A command that ends the connection there is: another one, its end, or a packet that cannot be
read. -/
def ReceiverCommand.closes (connection : Option ReceiverConnectionInfo) : ReceiverCommand → Bool
  | .transport (.connected _) | .transport (.disconnected _ _) | .transport (.error _) => true
  | .transport (.audioPacket packet) =>
    connection.any fun connection ↦ !(packet.frameCount connection.stream).isOk
  | .transport .keepAlive | .setPlaybackTarget _ => false

/-- `receiver_worker_loop`, between two turns. -/
structure ReceiverLoop where
  worker : ReceiverWorker
  /-- The commands the worker has not met yet, in the order of the channel. -/
  arrivals : List Arrival
  now : Instant
  /-- The last tick, or the moment at which the deadline was set, if that is later. -/
  armedSince : Instant

namespace ReceiverLoop

def new (secsF64 : SecsF64) (playbackTargetId : Option String)
    (latencyPreset : ReceiverLatencyPreset) (arrivals : List Arrival) (now : Instant) :
    ReceiverLoop where
  worker := .new secsF64 playbackTargetId latencyPreset
  arrivals
  now
  armedSince := now

/-- When `recv_timeout` gives up. -/
def timeout (loop : ReceiverLoop) : Instant := loop.now + loop.worker.nextWaitDuration loop.now

/-- `recv_timeout`: when it returns, what the turn is about, and what is still to come. -/
def recvTimeout (loop : ReceiverLoop) : Instant × ReceiverWorker.WorkerInput × List Arrival :=
  match loop.arrivals with
  | [] => (loop.timeout, .tick, [])
  | arrival :: later =>
    if arrival.moment ≤ loop.timeout then
      (max loop.now arrival.moment, arrival.command.toInput, later)
    else (loop.timeout, .tick, loop.arrivals)

/-- The deadline was set before this turn and is still the same after it. -/
def staysArmed (input : ReceiverWorker.WorkerInput) (loop : ReceiverLoop) : Bool :=
  input != .tick && loop.worker.nextPlaybackDeadline.isSome

/-- One turn. `env` answers for the playback engine and the sinks. -/
def step (secsF64 : SecsF64) (loop : ReceiverLoop) (env : HandlerEnv) : Option ReceiverLoop :=
  let (moment, input, arrivals) := loop.recvTimeout
  (loop.worker.step secsF64 (env.atMoment moment, input)).map fun worker ↦
    { worker
      arrivals
      now := moment
      armedSince := if loop.staysArmed input then loop.armedSince else moment }

/-- Until when a packet that is due at `deadline` can be played. -/
def patience (deadline : Instant) (loop : ReceiverLoop) : Instant :=
  max loop.armedSince deadline + Duration.fromMillis loop.worker.bufferProfile.latePacketDropMs.toNat

/-- The clock passes the end of the patience before the next turn, and no tick has run since the
deadline was set. -/
def Starves (loop : ReceiverLoop) : Prop :=
  ∃ deadline ∈ loop.worker.nextPlaybackDeadline, loop.patience deadline < loop.recvTimeout.1

instance (loop : ReceiverLoop) : Decidable loop.Starves := Option.decidableExistsMem _

/-- The channel leaves time for a tick: after one of the commands, or from now on, nothing arrives for
five milliseconds — or until the deadline, if that takes longer — and the patience lasts that long. Or
the connection is closed before the patience ends. -/
def GetsTick (deadline : Instant) (loop : ReceiverLoop) : Prop :=
  (∃ quiet ∈ loop.now :: loop.arrivals.map Arrival.moment, loop.now ≤ quiet ∧
    quiet + Duration.fromMillis 5 ≤ loop.patience deadline ∧
    ∀ arrival ∈ loop.arrivals, arrival.moment ≤ quiet ∨
      max (quiet + Duration.fromMillis 5) deadline < arrival.moment) ∨
  ∃ arrival ∈ loop.arrivals, arrival.command.closes loop.worker.connection = true ∧
    arrival.moment ≤ loop.patience deadline

instance (deadline : Instant) (loop : ReceiverLoop) : Decidable (loop.GetsTick deadline) :=
  inferInstanceAs (Decidable (_ ∨ _))

/-- If the deadline has been set, or a tick has run, at this moment, then there is time for a tick. -/
def Breathes (loop : ReceiverLoop) : Prop :=
  ∀ deadline ∈ loop.worker.nextPlaybackDeadline, loop.armedSince = loop.now →
    loop.GetsTick deadline

instance (loop : ReceiverLoop) : Decidable loop.Breathes := Option.decidableForallMem _

end ReceiverLoop

/-! ### What a command does to a deadline -/

namespace ReceiverWorker

variable {secsF64 : SecsF64} {env : HandlerEnv} {worker next : ReceiverWorker}

/-- A deadline that is set limits the wait, down to five milliseconds. -/
theorem add_nextWaitDuration_le {deadline : Instant} (now : Instant)
    (h : worker.nextPlaybackDeadline = some deadline) :
    now + worker.nextWaitDuration now ≤ max (now + Duration.fromMillis 5) deadline := by
  have hwait : worker.nextWaitDuration now ≤ max (deadline - now) (Duration.fromMillis 5) := by
    refine max_le_max_right _ ?_
    simp only [h]
    rcases worker.lastTransportActivity with - | lastActivity
    · exact min_le_right _ _
    · exact (min_le_left _ _).trans (min_le_right _ _)
  refine (Nat.add_le_add_left hwait now).trans ?_
  rw [← Nat.add_max_add_left]
  refine max_le ?_ (le_max_left _ _)
  rcases le_total deadline now with hpast | hahead
  · rw [Nat.sub_eq_zero_of_le hpast]
    exact le_max_of_le_left (Nat.le_add_right _ _)
  · rw [Nat.add_sub_cancel' hahead]
    exact le_max_right _ _

theorem handleConnect_deadline (secsF64 : SecsF64) (env : HandlerEnv)
    (connection : ReceiverConnectionInfo) (worker : ReceiverWorker) :
    (worker.handleConnect secsF64 env connection).nextPlaybackDeadline = none := by
  obtain ⟨lastError, hstop⟩ := stopPlaybackSink_eq env worker
  simp only [handleConnect, hstop]
  split
  · rfl
  · exact (setError_disconnected _ _ _).nextPlaybackDeadline

/-- Two workers agree on the connection, its profile and its deadline. -/
structure SameDeadline (worker next : ReceiverWorker) : Prop where
  connection : next.connection = worker.connection
  bufferProfile : next.bufferProfile = worker.bufferProfile
  nextPlaybackDeadline : next.nextPlaybackDeadline = worker.nextPlaybackDeadline

theorem handlePlaybackTargetChange_sameDeadline (env : HandlerEnv) (targetId : Option String)
    (worker : ReceiverWorker) :
    SameDeadline worker (worker.handlePlaybackTargetChange env targetId) := by
  obtain ⟨_, _, _, _, heq, -⟩ := handlePlaybackTargetChange_eq env targetId worker
  rw [heq]
  exact ⟨rfl, rfl, rfl⟩

theorem settleStates_sameDeadline {deadline : Instant}
    (h : worker.nextPlaybackDeadline = some deadline) : SameDeadline worker worker.settleStates := by
  obtain ⟨_, _, _, heq, hdeadline⟩ := settleStates_eq worker
  rw [heq]
  exact ⟨rfl, rfl, hdeadline (Option.isSome_iff_exists.2 ⟨deadline, h⟩)⟩

/-- **A command leaves a deadline alone**, or there is none any more. A command that closes the
connection leaves none. -/
theorem command_deadline {command : ReceiverCommand} {deadline : Instant}
    (h : worker.nextPlaybackDeadline = some deadline)
    (hstep : worker.step secsF64 (env, command.toInput) = some next) :
    next.nextPlaybackDeadline = none ∨
      SameDeadline worker next ∧ command.closes worker.connection = false := by
  obtain event | targetId := command
  · cases event with
    | connected connection =>
      obtain rfl := Option.some.inj hstep
      exact Or.inl (handleConnect_deadline secsF64 env connection worker)
    | audioPacket packet =>
      obtain rfl := Option.some.inj hstep
      show (worker.handlePacket env packet).nextPlaybackDeadline = none ∨
        SameDeadline worker (worker.handlePacket env packet) ∧ _
      rcases hconnection : worker.connection with - | connection
      · simp only [handlePacket, hconnection]
        exact Or.inr ⟨⟨rfl, rfl, rfl⟩, rfl⟩
      simp only [handlePacket, hconnection]
      split
      · exact Or.inl (setError_disconnected _ _ _).nextPlaybackDeadline
      next frameCount hcount =>
      split
      · exact Or.inl (setError_disconnected _ _ _).nextPlaybackDeadline
      next outcome buffer hpush =>
      let counted := (worker.openSyncWindow (env.now 0) packet).countPacket (env.now 0) packet
        frameCount outcome buffer
      obtain ⟨hsame, hprofile, hdeadline⟩ := @settleStates_sameDeadline counted deadline h
      refine Or.inr ⟨⟨hsame, hprofile, hdeadline⟩, ?_⟩
      simp only [ReceiverCommand.closes, Option.any_some, hcount, Except.isOk, Except.toBool,
        Bool.not_true]
    | keepAlive =>
      obtain rfl := Option.some.inj hstep
      exact Or.inr ⟨⟨rfl, rfl, rfl⟩, rfl⟩
    | disconnected reason reconnectSuggested =>
      obtain rfl := Option.some.inj hstep
      exact Or.inl (handleDisconnect_disconnected _ _ _ _).nextPlaybackDeadline
    | error message =>
      obtain rfl := Option.some.inj hstep
      exact Or.inl (setError_disconnected _ _ _).nextPlaybackDeadline
  · obtain rfl := Option.some.inj hstep
    exact Or.inr ⟨handlePlaybackTargetChange_sameDeadline env targetId worker, rfl⟩

end ReceiverWorker

/-! ### Runs -/

namespace ReceiverLoop

variable {secsF64 : SecsF64} {loop next : ReceiverLoop} {env : HandlerEnv} {deadline : Instant}

/-- What `recv_timeout` does. -/
inductive Received (loop : ReceiverLoop) :
    Instant × ReceiverWorker.WorkerInput × List Arrival → Prop
  /-- The wait is over. -/
  | timeout (quiet : ∀ arrival ∈ loop.arrivals.head?, loop.timeout < arrival.moment) :
      Received loop (loop.timeout, .tick, loop.arrivals)
  /-- A command came in time. -/
  | command {arrival : Arrival} {later : List Arrival} (channel : loop.arrivals = arrival :: later)
      (inTime : arrival.moment ≤ loop.timeout) :
      Received loop (max loop.now arrival.moment, arrival.command.toInput, later)

theorem received (loop : ReceiverLoop) : loop.Received loop.recvTimeout := by
  rw [recvTimeout]
  split
  next hempty =>
    have htimeout := @Received.timeout loop (by simp [hempty])
    rwa [hempty] at htimeout
  next arrival later hchannel =>
    split
    next hinTime => exact .command hchannel hinTime
    next hlate => exact .timeout (by simpa [hchannel] using hlate)

theorem now_le_timeout (loop : ReceiverLoop) : loop.now ≤ loop.timeout := Nat.le_add_right _ _

theorem recvTimeout_le_timeout (loop : ReceiverLoop) : loop.recvTimeout.1 ≤ loop.timeout := by
  have hreceived := loop.received
  generalize loop.recvTimeout = received at hreceived
  cases hreceived with
  | timeout quiet => exact le_rfl
  | command channel inTime => exact max_le loop.now_le_timeout inTime

/-- An armed loop takes its next turn before the deadline, or within five milliseconds. -/
theorem recvTimeout_le (h : loop.worker.nextPlaybackDeadline = some deadline) :
    loop.recvTimeout.1 ≤ max (loop.now + Duration.fromMillis 5) deadline :=
  loop.recvTimeout_le_timeout.trans (ReceiverWorker.add_nextWaitDuration_le loop.now h)

/-- The schedule of the commands is one, and no tick has kept a packet waiting so far. -/
structure Awake (loop : ReceiverLoop) : Prop where
  sorted : loop.arrivals.Pairwise fun arrival later ↦ arrival.moment ≤ later.moment
  now : ∀ deadline, loop.worker.nextPlaybackDeadline = some deadline →
    loop.now ≤ loop.patience deadline
  getsTick : ∀ deadline, loop.worker.nextPlaybackDeadline = some deadline →
    loop.armedSince = loop.now ∨ loop.GetsTick deadline

/-- The first command is the earliest. -/
theorem moment_le_of_sorted {first arrival : Arrival} {later : List Arrival}
    (hsorted : (first :: later).Pairwise fun arrival later ↦ arrival.moment ≤ later.moment)
    (hmem : arrival ∈ first :: later) : first.moment ≤ arrival.moment := by
  rcases List.mem_cons.1 hmem with rfl | hlater
  · exact le_rfl
  · exact (List.pairwise_cons.1 hsorted).1 arrival hlater

/-- With time for a tick, the next turn comes before the patience ends. -/
theorem GetsTick.recvTimeout_le (h : loop.GetsTick deadline)
    (hdeadline : loop.worker.nextPlaybackDeadline = some deadline)
    (hsorted : loop.arrivals.Pairwise fun arrival later ↦ arrival.moment ≤ later.moment)
    (hnow : loop.now ≤ loop.patience deadline) : loop.recvTimeout.1 ≤ loop.patience deadline := by
  have hpatience : deadline ≤ loop.patience deadline :=
    (le_max_right _ _).trans (Nat.le_add_right _ _)
  rcases h with ⟨quiet, -, hquiet, hlasts, -⟩ | ⟨arrival, harrival, -, hlasts⟩
  · refine (loop.recvTimeout_le hdeadline).trans (max_le ?_ hpatience)
    exact (Nat.add_le_add_right hquiet _).trans hlasts
  · -- the turn is not after the next command, and so not after the one that closes the connection
    have hreceived := loop.received
    generalize loop.recvTimeout = received at hreceived
    cases hreceived with
    | timeout quiet =>
      rcases hchannel : loop.arrivals with - | ⟨first, later⟩
      · rw [hchannel] at harrival
        exact absurd harrival List.not_mem_nil
      rw [hchannel] at harrival hsorted quiet
      have hfirst := moment_le_of_sorted hsorted harrival
      exact ((quiet first rfl).le.trans hfirst).trans hlasts
    | @command first later channel inTime =>
      rw [channel] at harrival hsorted
      have hfirst := moment_le_of_sorted hsorted harrival
      exact max_le hnow (hfirst.trans hlasts)

theorem Awake.recvTimeout_le (h : loop.Awake) (hbreathes : loop.Breathes)
    (hdeadline : loop.worker.nextPlaybackDeadline = some deadline) :
    loop.recvTimeout.1 ≤ loop.patience deadline := by
  refine GetsTick.recvTimeout_le ?_ hdeadline h.sorted (h.now deadline hdeadline)
  rcases h.getsTick deadline hdeadline with harmed | hgets
  · exact hbreathes deadline hdeadline harmed
  · exact hgets

/-- A command that closes nothing leaves the time for a tick ahead. -/
theorem GetsTick.later {arrival : Arrival} {later : List Arrival} (h : loop.GetsTick deadline)
    (hchannel : loop.arrivals = arrival :: later)
    (hnext : next.arrivals = later) (hnow : next.now = max loop.now arrival.moment)
    (hturn : next.now ≤ max (loop.now + Duration.fromMillis 5) deadline)
    (hpatience : next.patience deadline = loop.patience deadline)
    (hconnection : next.worker.connection = loop.worker.connection)
    (hcloses : arrival.command.closes loop.worker.connection = false) :
    next.GetsTick deadline := by
  rcases h with ⟨quiet, hmem, hquiet, hlasts, hsilence⟩ | ⟨closing, hclosing, hcloses', hlasts⟩
  · have hfirst : arrival.moment ≤ quiet := by
      rcases hsilence arrival (hchannel ▸ List.mem_cons_self) with hbefore | hafter
      · exact hbefore
      · refine absurd ((hafter.trans_le (le_max_right loop.now _)).trans_le (hnow ▸ hturn)) ?_
        exact not_lt.2 (max_le_max_right _ (Nat.add_le_add_right hquiet _))
    have hlate : next.now ≤ quiet := hnow ▸ max_le hquiet hfirst
    refine Or.inl ⟨quiet, ?_, hlate, hpatience ▸ hlasts, fun arrival' harrival' ↦
      hsilence arrival' (hchannel ▸ List.mem_cons_of_mem _ (hnext ▸ harrival'))⟩
    rw [hchannel, List.map_cons, List.mem_cons, List.mem_cons] at hmem
    rw [List.mem_cons, hnext]
    rcases hmem with rfl | rfl | hmem
    · exact Or.inl (le_antisymm (hnow ▸ le_max_left _ _) hlate)
    · exact Or.inl (le_antisymm (hnow ▸ le_max_right _ _) hlate)
    · exact Or.inr hmem
  · refine Or.inr ⟨closing, ?_, hconnection ▸ hcloses', hpatience ▸ hlasts⟩
    rw [hchannel] at hclosing
    rcases List.mem_cons.1 hclosing with rfl | hlater
    · rw [hcloses] at hcloses'
      exact absurd hcloses' Bool.false_ne_true
    · exact hnext ▸ hlater

/-- **A turn keeps the loop awake**, if there was time for a tick. -/
theorem awake_step (h : loop.Awake) (hbreathes : loop.Breathes)
    (hstep : loop.step secsF64 env = some next) : next.Awake := by
  have hreceived := loop.received
  rw [step] at hstep
  have hturn := fun deadline hdeadline ↦ @Awake.recvTimeout_le loop deadline h hbreathes hdeadline
  have hsoon := fun deadline hdeadline ↦ @recvTimeout_le loop deadline hdeadline
  generalize loop.recvTimeout = received at hreceived hstep hturn hsoon
  cases hreceived with
  | timeout quiet =>
    obtain ⟨worker, hworker, rfl⟩ := Option.map_eq_some_iff.1 hstep
    refine ⟨h.sorted, fun deadline _ ↦ ?_, fun _ _ ↦ Or.inl rfl⟩
    exact (le_max_left _ deadline).trans (Nat.le_add_right _ _)
  | @command arrival later channel inTime =>
    obtain ⟨worker, hworker, rfl⟩ := Option.map_eq_some_iff.1 hstep
    have hsorted := (List.pairwise_cons.1 (channel ▸ h.sorted)).2
    have htick : (arrival.command.toInput != .tick) = true := by
      rcases arrival.command with event | targetId
      · rfl
      · rfl
    rcases hold : loop.worker.nextPlaybackDeadline with - | deadline
    · -- the deadline is new
      have harmed : loop.staysArmed arrival.command.toInput = false := by
        rw [staysArmed, hold, Option.isSome_none, Bool.and_false]
      simp only [harmed, Bool.false_eq_true, if_false]
      exact ⟨hsorted, fun deadline _ ↦ (le_max_left _ deadline).trans (Nat.le_add_right _ _),
        fun _ _ ↦ Or.inl rfl⟩
    · have harmed : loop.staysArmed arrival.command.toInput = true := by
        rw [staysArmed, hold, htick]
        rfl
      simp only [harmed, if_true]
      rcases ReceiverWorker.command_deadline hold hworker with hnone | ⟨hsame, hcloses⟩
      · refine ⟨hsorted, fun deadline' hdeadline' ↦ ?_, fun deadline' hdeadline' ↦ ?_⟩
        · exact absurd (hnone.symm.trans hdeadline') (Option.some_ne_none deadline').symm
        · exact absurd (hnone.symm.trans hdeadline') (Option.some_ne_none deadline').symm
      · have hdeadline := hsame.nextPlaybackDeadline.trans hold
        refine ⟨hsorted, fun deadline' hdeadline' ↦ ?_, fun deadline' hdeadline' ↦ ?_⟩
        · obtain rfl := Option.some.inj (hdeadline.symm.trans hdeadline')
          show max loop.now arrival.moment ≤ max loop.armedSince deadline + _
          rw [hsame.bufferProfile]
          exact hturn deadline hold
        · obtain rfl := Option.some.inj (hdeadline.symm.trans hdeadline')
          have hgets : loop.GetsTick deadline := by
            rcases h.getsTick deadline hold with hnow | hgets
            · exact hbreathes deadline hold hnow
            · exact hgets
          refine Or.inr (hgets.later channel rfl rfl (hsoon deadline hold) ?_ hsame.connection hcloses)
          show max loop.armedSince deadline + _ = max loop.armedSince deadline + _
          rw [hsame.bufferProfile]

theorem awake_new (secsF64 : SecsF64) (playbackTargetId : Option String)
    (latencyPreset : ReceiverLatencyPreset) {arrivals : List Arrival} (now : Instant)
    (hsorted : arrivals.Pairwise fun arrival later ↦ arrival.moment ≤ later.moment) :
    (new secsF64 playbackTargetId latencyPreset arrivals now).Awake where
  sorted := hsorted
  now _ h := nomatch h
  getsTick _ h := nomatch h

/-- **Packets that are due are not kept waiting**, as long as the commands leave time for a tick. Take
any schedule of commands. In a run in which, whenever a deadline is set or has survived a tick, there is
a command after which the channel is silent until the deadline and for at least five milliseconds, and
the packet can be played until then, or the connection is closed before: in front of every turn, the
clock does not pass the patience of the profile without a tick. -/
theorem never_starved (secsF64 : SecsF64) (playbackTargetId : Option String)
    (latencyPreset : ReceiverLatencyPreset) (arrivals : List Arrival) (now : Instant)
    (hsorted : arrivals.Pairwise fun arrival later ↦ arrival.moment ≤ later.moment)
    (envs : List HandlerEnv)
    (hbreathes : Transition.Along (step secsF64) (fun loop _ ↦ loop.Breathes)
      (new secsF64 playbackTargetId latencyPreset arrivals now) envs) :
    Transition.Along (step secsF64) (fun loop _ ↦ ¬loop.Starves)
      (new secsF64 playbackTargetId latencyPreset arrivals now) envs := by
  refine Transition.along_of_invariant
    (fun _ _ _ hawake hbreathes hstep ↦ awake_step hawake hbreathes hstep) ?_
    (awake_new secsF64 playbackTargetId latencyPreset now hsorted) hbreathes
  rintro loop - hawake hbreathes ⟨deadline, hdeadline, hstarves⟩
  exact absurd (hawake.recvTimeout_le hbreathes hdeadline) (not_le.2 hstarves)

end ReceiverLoop

/-! ### Dense and sparse packets -/

namespace Sample

/-- `Duration::from_secs_f64` of a quotient. -/
def exactSecs : SecsF64 := fun frames rate ↦ frames * 1000000000 / rate

/-- A connection with packets of five milliseconds. -/
def shortPackets : ReceiverConnectionInfo where
  sessionId := "session-1"
  remoteAddr := none
  stream := { sampleRateHz := 1000, channels := 1, sampleFormat := .s16Le, framesPerPacket := 5 }
  requestedLatencyMs := 30

/-- The `index`-th packet, when packets arrive every `gap` milliseconds as they are captured. -/
def packetEvery (gap index : ℕ) : Arrival where
  moment := Duration.fromMillis (gap * (index + 1))
  command := .transport (.audioPacket
    ⟨UInt64.ofNat index, UInt64.ofNat (gap * index), 0, List.replicate (2 * gap) 0⟩)

/-- A sender connects, and its packets arrive every `gap` milliseconds. -/
def packetsEvery (gap count : ℕ) : List Arrival :=
  ⟨0, .transport (.connected shortPackets)⟩ :: (List.range count).map (packetEvery gap)

end Sample

/-- **Packets starve the playback.** A packet is due at 35 milliseconds and may be 25 late; packets go on
arriving every five milliseconds, and not one of twenty is written before they stop. -/
theorem packets_starve :
    (Sample.packetsEvery 5 20).Pairwise (fun arrival later ↦ arrival.moment ≤ later.moment) ∧
      ¬Transition.Along (ReceiverLoop.step Sample.exactSecs) (fun loop _ ↦ ¬loop.Starves)
        (.new Sample.exactSecs none .lowLatency (Sample.packetsEvery 5 20) 0)
        (List.replicate 21 (ReceiverWorker.calmEnv 0)) ∧
      (Transition.run (ReceiverLoop.step Sample.exactSecs)
          (.new Sample.exactSecs none .lowLatency (Sample.packetsEvery 5 20) 0)
          (List.replicate 21 (ReceiverWorker.calmEnv 0))).map (fun loop ↦
        (loop.now, loop.worker.nextPlaybackDeadline, loop.worker.written)) =
      some (Duration.fromMillis 100, some (Duration.fromMillis 35), []) := by
  decide +kernel

/-- With packets of twice the length there is time for ticks. -/
theorem never_starved_sparse :
    Transition.Along (ReceiverLoop.step Sample.exactSecs) (fun loop _ ↦ ¬loop.Starves)
      (.new Sample.exactSecs none .lowLatency (Sample.packetsEvery 10 12) 0)
      (List.replicate 20 (ReceiverWorker.calmEnv 0)) :=
  ReceiverLoop.never_starved Sample.exactSecs none .lowLatency (Sample.packetsEvery 10 12) 0
    (by decide +kernel) _ (by decide +kernel)

end SynchroSonic
