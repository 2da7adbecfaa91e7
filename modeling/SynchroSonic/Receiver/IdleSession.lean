import SynchroSonic.Core.Config
import SynchroSonic.Receiver.LiveSession
import SynchroSonic.Transport.Agreement

/-!
# An idle session

A session over which no audio is sent. The sender ticks and says a heartbeat when its interval is over;
the heartbeat reaches the worker at once and is acknowledged; the worker ticks when it has waited long
enough, and gives the session up if it has heard nothing for its grace period. The clock of the model
moves only in `wait`, and never further than `tickGap` past the sender's last tick.

The interval, the keepalive of the `Accept` and the grace period are configured at three places, and
nothing compares them. `kept_iff` says for which configurations they fit together.
-/

namespace SynchroSonic

/-! ### The two ends and the clock -/

/-- An open session without audio, at a moment. -/
structure IdleSession where
  now : Instant
  session : ManagedTargetSession
  worker : ReceiverWorker
  /-- When the sender last ticked. -/
  lastTick : Instant
  /-- When the worker last took a turn. -/
  lastTurn : Instant
  /-- The acknowledgements the sender has not looked at yet: nonce and size on the wire. -/
  acked : List (ℕ × ℕ) := []
  /-- The sizes of the heartbeats that went out since the sender's last tick. -/
  sent : List ℕ := []

/-- What happens to an idle session. -/
inductive IdleInput
  | wait (duration : Duration)
  /-- The sender ticks. A heartbeat and its acknowledgement have these sizes, and meet this worker. -/
  | senderTick (env : HandlerEnv) (sentBytes ackBytes : ℕ)
  /-- The worker has waited for `next_wait_duration`. -/
  | receiverTick (env : HandlerEnv)
  | setPlaybackTarget (env : HandlerEnv) (targetId : Option String)

namespace IdleSession

/-- What the sender finds when it ticks. -/
def tickEnv (system : IdleSession) : TickEnv where
  inbound := system.acked.map fun (nonce, wireBytes) ↦ .heartbeatAck nonce wireBytes
  events := system.sent.map .heartbeatSent
  now _ := system.now

/-- The worker has waited long enough for a tick. -/
def TickDue (system : IdleSession) : Prop :=
  system.lastTurn + system.worker.nextWaitDuration system.lastTurn ≤ system.now

instance (system : IdleSession) : Decidable system.TickDue := inferInstanceAs (Decidable (_ ≤ _))

/-- The worker takes a turn. -/
def turn (secsF64 : SecsF64) (env : HandlerEnv) (input : ReceiverWorker.WorkerInput)
    (system : IdleSession) : Option IdleSession :=
  (system.worker.step secsF64 (env.atMoment system.now, input)).map fun worker ↦
    { system with worker, lastTurn := system.now }

/-- One step. -/
def step (secsF64 : SecsF64) (heartbeatInterval tickGap : Duration) (system : IdleSession) :
    IdleInput → Option IdleSession
  | .wait duration =>
    if system.now + duration ≤ system.lastTick + tickGap then
      some { system with now := system.now + duration }
    else none
  | .senderTick env sentBytes ackBytes =>
    let session := (system.session.tick heartbeatInterval system.tickEnv).2
    let ticked := { system with session, lastTick := system.now, acked := [], sent := [] }
    if session.heartbeatNonce = system.session.heartbeatNonce then some ticked
    else turn secsF64 env (.transport .keepAlive)
      { ticked with acked := [(session.heartbeatNonce, ackBytes)], sent := [sentBytes] }
  | .receiverTick env => if system.TickDue then system.turn secsF64 env .tick else none
  | .setPlaybackTarget env targetId => system.turn secsF64 env (.setPlaybackTarget targetId)

/-- This input makes `check_transport_timeout` give the session up. -/
def TimesOut (system : IdleSession) : IdleInput → Prop
  | .receiverTick env => system.TickDue ∧
      system.worker.departure (env.atMoment system.now, .tick) = some .timedOut
  | _ => False

end IdleSession

/-! ### What a tick of the sender does -/

namespace ManagedTargetSession

/-- What the heartbeats of a session depend on. -/
def beat (session : ManagedTargetSession) : StreamSessionState × Instant × ℕ :=
  (session.snapshot.state, session.lastHeartbeat, session.heartbeatNonce)

/-- An acknowledgement does not move the next heartbeat. -/
theorem beat_heartbeatAck (now : Instant) (nonce wireBytes : ℕ) (session : ManagedTargetSession) :
    (session.handleInbound now (.heartbeatAck nonce wireBytes)).beat = session.beat := by
  rw [handleInbound]
  dsimp only
  split
  · rfl
  · rfl

theorem beat_refreshHealth (session : ManagedTargetSession) :
    session.refreshHealth.beat = session.beat := by
  rw [refreshHealth]
  split
  · rfl
  · rfl

/-- A heartbeat is sent when it is due, and the next one counted from then. -/
theorem beat_heartbeat {heartbeatInterval : Duration} {now : Instant}
    {session : ManagedTargetSession} (hstreaming : session.snapshot.state = .streaming) :
    (session.heartbeat heartbeatInterval true now now now).beat =
      if heartbeatInterval ≤ now - session.lastHeartbeat then
        (.streaming, now, session.heartbeatNonce + 1)
      else session.beat := by
  rw [heartbeat]
  by_cases hdue : heartbeatInterval ≤ now - session.lastHeartbeat
  · rw [if_pos ⟨hstreaming, hdue⟩, if_pos hdue, ← hstreaming]
    rfl
  · rw [if_neg fun h ↦ hdue h.2, if_neg hdue]

end ManagedTargetSession

namespace IdleSession

variable {secsF64 : SecsF64} {heartbeatInterval tickGap : Duration} {system next : IdleSession}

/-- **A tick of the sender** says a heartbeat exactly when the interval is over. -/
theorem beat_tick (hstreaming : system.session.snapshot.state = .streaming) :
    (system.session.tick heartbeatInterval system.tickEnv).2.beat =
      if heartbeatInterval ≤ system.now - system.session.lastHeartbeat then
        (.streaming, system.now, system.session.heartbeatNonce + 1)
      else system.session.beat := by
  let acknowledged := system.tickEnv.inbound.zipIdx.foldl
    (fun session (item : InboundControl × ℕ) ↦
      session.handleInbound (system.tickEnv.now item.2) item.1) system.session
  have hacknowledged : acknowledged.beat = system.session.beat := by
    refine List.foldlRecOn (motive := fun session : ManagedTargetSession ↦
      session.beat = system.session.beat) _ _ rfl fun session hsame item hitem ↦ ?_
    obtain ⟨⟨nonce, wireBytes⟩, -, hinbound⟩ := List.mem_map.1 (List.fst_mem_of_mem_zipIdx hitem)
    rw [← hinbound]
    exact (ManagedTargetSession.beat_heartbeatAck _ _ _ session).trans hsame
  let reported := system.tickEnv.events.zipIdx.foldl
    (fun session (item : NetworkEvent × ℕ) ↦ session.handleNetworkEvent
      (system.tickEnv.now (system.tickEnv.inbound.length + item.2)) item.1) acknowledged
  have hreported : reported.beat = system.session.beat := by
    refine List.foldlRecOn (motive := fun session : ManagedTargetSession ↦
      session.beat = system.session.beat) _ _ hacknowledged fun session hsame item hitem ↦ ?_
    obtain ⟨wireBytes, -, hevent⟩ := List.mem_map.1 (List.fst_mem_of_mem_zipIdx hitem)
    rw [← hevent]
    exact hsame
  have hstate : reported.snapshot.state = .streaming :=
    (congrArg Prod.fst hreported).trans hstreaming
  have hlast : reported.lastHeartbeat = system.session.lastHeartbeat :=
    congrArg (fun beat ↦ beat.2.1) hreported
  have hnonce : reported.heartbeatNonce = system.session.heartbeatNonce :=
    congrArg (fun beat ↦ beat.2.2) hreported
  show (((reported.heartbeat heartbeatInterval true system.now system.now
    system.now).consume 0).refreshBuffer.refreshHealth).beat = _
  rw [ManagedTargetSession.beat_refreshHealth]
  show (reported.heartbeat heartbeatInterval true system.now system.now system.now).beat = _
  rw [ManagedTargetSession.beat_heartbeat hstate, hlast, hnonce, hreported]

/-! ### What a turn of the worker does -/

/-- What the timeout depends on, for a worker that holds a connection and has no packet. -/
structure Listens (worker : ReceiverWorker) (profile : ReceiverLatencyProfile) (heard : Instant) :
    Prop where
  connection : worker.connection.isSome = true
  syncClock : worker.syncClock = none
  lastTransportActivity : worker.lastTransportActivity = some heard
  bufferProfile : worker.bufferProfile = profile

variable {worker : ReceiverWorker} {profile : ReceiverLatencyProfile} {heard : Instant}

/-- Without a window nothing is drained. -/
theorem Listens.drain (h : Listens worker profile heard) (env : HandlerEnv) :
    ∃ state, worker.drainReadyPackets env = some (.noClock, { worker with state }) := by
  refine ⟨if worker.state = .connected then .buffering else worker.state, ?_⟩
  rw [ReceiverWorker.drainReadyPackets, if_neg, if_pos (by rw [h.syncClock]; rfl)]
  rw [Option.isNone_iff_eq_none]
  exact Option.isSome_iff_ne_none.1 h.connection

/-- **A silent worker gives up** exactly when its grace period is over. -/
theorem Listens.departure_iff (h : Listens worker profile heard) (env : HandlerEnv) :
    worker.departure (env, .tick) = some .timedOut ↔
      profile.reconnectGracePeriod ≤ env.timeoutNow - heard := by
  obtain ⟨state, hdrain⟩ := h.drain env
  have htimedOut : ({ worker with state } : ReceiverWorker).transportTimedOut env =
      decide (profile.reconnectGracePeriod ≤ env.timeoutNow - heard) := by
    simp only [ReceiverWorker.transportTimedOut, h.lastTransportActivity, h.connection,
      h.bufferProfile, Bool.true_and]
  simp only [ReceiverWorker.departure, hdrain, htimedOut, decide_eq_true_eq, ite_eq_left_iff,
    reduceCtorEq, imp_false, not_not]

/-- A tick within the grace period gives nothing up. -/
theorem Listens.tick (h : Listens worker profile heard) {env : HandlerEnv}
    (hkept : ¬profile.reconnectGracePeriod ≤ env.timeoutNow - heard) :
    ∃ next, worker.onTick env = some next ∧ Listens next profile heard := by
  obtain ⟨state, hdrain⟩ := h.drain env
  have hsame : ({ worker with state } : ReceiverWorker).checkTransportTimeout env =
      { worker with state } := by
    simp only [ReceiverWorker.checkTransportTimeout, h.lastTransportActivity, h.bufferProfile]
    rw [if_neg fun hover ↦ hkept hover.2]
  refine ⟨_, by simp only [ReceiverWorker.onTick, hdrain]; rfl, ?_⟩
  rw [hsame]
  exact ⟨h.connection, h.syncClock, h.lastTransportActivity, h.bufferProfile⟩

/-- A worker that has taken a connection listens from then on. -/
theorem listens_handleConnect {env : HandlerEnv} {connection : ReceiverConnectionInfo}
    (h : (worker.handleConnect secsF64 env connection).connection.isSome = true) :
    Listens (worker.handleConnect secsF64 env connection) worker.bufferProfile (env.now 0) := by
  obtain ⟨lastError, hstop⟩ := ReceiverWorker.stopPlaybackSink_eq env worker
  rw [ReceiverWorker.handleConnect] at h ⊢
  simp only [hstop, ReceiverWorker.resetSyncTimeline] at h ⊢
  split
  · exact ⟨rfl, rfl, rfl, rfl⟩
  next error hstart =>
    rw [hstart] at h
    dsimp only at h
    rw [(ReceiverWorker.setError_disconnected _ _ _).connection] at h
    cases h

/-- A change of the target is no sign of life. -/
theorem Listens.setPlaybackTarget (h : Listens worker profile heard) (env : HandlerEnv)
    (targetId : Option String) :
    Listens (worker.handlePlaybackTargetChange env targetId) profile heard := by
  rw [ReceiverWorker.handlePlaybackTargetChange]
  dsimp only
  rcases hconnection : worker.connection with - | connection
  · have hsome := h.connection
    rw [hconnection] at hsome
    cases hsome
  dsimp only
  split
  next sink hstart =>
    obtain ⟨lastError, hstop⟩ := ReceiverWorker.stopPlaybackSink_eq env
      { worker with playbackTargetId := targetId, lastError := none }
    rw [hconnection] at hstop
    rw [hstop]
    exact ⟨rfl, h.syncClock, h.lastTransportActivity, h.bufferProfile⟩
  · exact ⟨rfl, h.syncClock, h.lastTransportActivity, h.bufferProfile⟩

/-! ### Runs in which the heartbeats come in time -/

/-- A difference of clock readings, where the later one may be the first. -/
theorem elapsed_lt {now last span : ℕ} (hpos : 0 < span) (h : now < last + span) : now - last < span := by
  omega

/-- The sender streams, and both ends count from the last heartbeat. -/
structure Beats (heartbeatInterval tickGap : Duration) (profile : ReceiverLatencyProfile)
    (system : IdleSession) : Prop where
  streaming : system.session.snapshot.state = .streaming
  worker : Listens system.worker profile system.session.lastHeartbeat
  /-- No heartbeat was due at the last tick, or one was sent. -/
  ticked : system.lastTick < system.session.lastHeartbeat + heartbeatInterval
  now : system.now ≤ system.lastTick + tickGap

/-- The silence of a session is shorter than an interval and a gap. -/
theorem Beats.silence (h : Beats heartbeatInterval tickGap profile system) :
    system.now < system.session.lastHeartbeat + (heartbeatInterval + tickGap) :=
  calc system.now ≤ system.lastTick + tickGap := h.now
    _ < system.session.lastHeartbeat + heartbeatInterval + tickGap :=
      Nat.add_lt_add_right h.ticked tickGap
    _ = system.session.lastHeartbeat + (heartbeatInterval + tickGap) := Nat.add_assoc _ _ _

/-- So the grace period is not over. -/
theorem Beats.not_over (h : Beats heartbeatInterval tickGap profile system)
    (hinterval : 0 < heartbeatInterval)
    (hfits : heartbeatInterval + tickGap ≤ profile.reconnectGracePeriod) :
    ¬profile.reconnectGracePeriod ≤ system.now - system.session.lastHeartbeat := by
  have hpos : 0 < profile.reconnectGracePeriod :=
    (Nat.add_pos_left hinterval tickGap).trans_le hfits
  exact Nat.not_le.2 (elapsed_lt hpos
    (h.silence.trans_le (Nat.add_le_add_left hfits _)))

/-- **As long as interval and gap fit into the grace period, every step keeps the session.** -/
theorem beats_step {input : IdleInput} (hinterval : 0 < heartbeatInterval)
    (hfits : heartbeatInterval + tickGap ≤ profile.reconnectGracePeriod)
    (h : Beats heartbeatInterval tickGap profile system)
    (hstep : system.step secsF64 heartbeatInterval tickGap input = some next) :
    Beats heartbeatInterval tickGap profile next := by
  cases input with
  | wait duration =>
    simp only [step] at hstep
    split at hstep
    next hgap =>
      obtain rfl := Option.some.inj hstep
      exact ⟨h.streaming, h.worker, h.ticked, hgap⟩
    · cases hstep
  | senderTick env sentBytes ackBytes =>
    have hbeat := @beat_tick heartbeatInterval system h.streaming
    simp only [step] at hstep
    split at hbeat
    next hdue =>
      -- a heartbeat goes out, and the worker hears it
      have hlast : (system.session.tick heartbeatInterval system.tickEnv).2.lastHeartbeat =
          system.now := congrArg (fun beat ↦ beat.2.1) hbeat
      have hnonce : (system.session.tick heartbeatInterval system.tickEnv).2.heartbeatNonce =
          system.session.heartbeatNonce + 1 := congrArg (fun beat ↦ beat.2.2) hbeat
      rw [if_neg (by rw [hnonce]; exact Nat.succ_ne_self _)] at hstep
      obtain rfl := Option.some.inj hstep
      refine ⟨congrArg Prod.fst hbeat, ?_, ?_, Nat.le_add_right _ _⟩
      · exact ⟨h.worker.connection, h.worker.syncClock, congrArg some hlast.symm,
          h.worker.bufferProfile⟩
      · show system.now <
          (system.session.tick heartbeatInterval system.tickEnv).2.lastHeartbeat + heartbeatInterval
        rw [hlast]
        exact Nat.lt_add_of_pos_right hinterval
    next hearly =>
      have hlast : (system.session.tick heartbeatInterval system.tickEnv).2.lastHeartbeat =
          system.session.lastHeartbeat := congrArg (fun beat ↦ beat.2.1) hbeat
      have hnonce : (system.session.tick heartbeatInterval system.tickEnv).2.heartbeatNonce =
          system.session.heartbeatNonce := congrArg (fun beat ↦ beat.2.2) hbeat
      rw [if_pos hnonce] at hstep
      obtain rfl := Option.some.inj hstep
      refine ⟨(congrArg Prod.fst hbeat).trans h.streaming, hlast ▸ h.worker, ?_,
        Nat.le_add_right _ _⟩
      show system.now <
        (system.session.tick heartbeatInterval system.tickEnv).2.lastHeartbeat + heartbeatInterval
      rw [hlast]
      exact lt_add_of_tsub_lt_left (Nat.not_le.1 hearly)
  | receiverTick env =>
    simp only [step] at hstep
    split at hstep
    · obtain ⟨worker, hworker, hlistens⟩ :=
        @Listens.tick _ _ _ h.worker (env.atMoment system.now) (h.not_over hinterval hfits)
      obtain ⟨_, hturn, rfl⟩ := Option.map_eq_some_iff.1 hstep
      obtain rfl := Option.some.inj (hworker.symm.trans hturn)
      exact ⟨h.streaming, hlistens, h.ticked, h.now⟩
    · cases hstep
  | setPlaybackTarget env targetId =>
    obtain rfl := Option.some.inj hstep
    exact ⟨h.streaming, h.worker.setPlaybackTarget _ targetId, h.ticked, h.now⟩

/-- A session that is heard in time does not time out. -/
theorem Beats.not_timesOut {input : IdleInput} (hinterval : 0 < heartbeatInterval)
    (hfits : heartbeatInterval + tickGap ≤ profile.reconnectGracePeriod)
    (h : Beats heartbeatInterval tickGap profile system) : ¬system.TimesOut input := by
  cases input with
  | receiverTick env =>
    rintro ⟨-, htimedOut⟩
    exact h.not_over hinterval hfits ((h.worker.departure_iff _).1 htimedOut)
  | _ => exact id

/-! ### A run in which no heartbeat comes in time -/

/-- Nothing has been said since `opened`. -/
structure Silent (heartbeatInterval : Duration) (opened : IdleSession) (elapsed : Duration)
    (system : IdleSession) : Prop where
  streaming : system.session.snapshot.state = .streaming
  lastHeartbeat : system.session.lastHeartbeat = opened.session.lastHeartbeat
  worker : system.worker = opened.worker
  lastTurn : system.lastTurn = opened.lastTurn
  now : system.now = opened.session.lastHeartbeat + elapsed
  lastTick : system.lastTick = system.now

/-- As long as no heartbeat is due, the sender may tick in time and say nothing. -/
theorem silent_run {opened : IdleSession} (hgap : 0 < tickGap)
    (hopened : Silent heartbeatInterval opened 0 opened) (elapsed : Duration)
    (hearly : elapsed < heartbeatInterval) :
    ∃ inputs system, Transition.run (step secsF64 heartbeatInterval tickGap) opened inputs =
      some system ∧ Silent heartbeatInterval opened elapsed system := by
  induction elapsed with
  | zero => exact ⟨[], opened, rfl, hopened⟩
  | succ elapsed ih =>
    obtain ⟨inputs, system, hrun, hsilent⟩ := ih (Nat.lt_of_succ_lt hearly)
    let waited := { system with now := system.now + 1 }
    have hwait : system.step secsF64 heartbeatInterval tickGap (.wait 1) = some waited :=
      if_pos (by rw [hsilent.lastTick]; exact Nat.add_le_add_left hgap _)
    have hnow : waited.now = opened.session.lastHeartbeat + (elapsed + 1) :=
      congrArg (· + 1) hsilent.now
    have hnotDue : ¬heartbeatInterval ≤ waited.now - waited.session.lastHeartbeat := by
      rw [show waited.session.lastHeartbeat = _ from hsilent.lastHeartbeat, hnow,
        Nat.add_sub_cancel_left]
      exact Nat.not_le.2 hearly
    have hbeat := (@beat_tick heartbeatInterval waited hsilent.streaming).trans (if_neg hnotDue)
    have hnonce : (system.session.tick heartbeatInterval waited.tickEnv).2.heartbeatNonce =
        system.session.heartbeatNonce := congrArg (fun beat ↦ beat.2.2) hbeat
    have htick : waited.step secsF64 heartbeatInterval tickGap
        (.senderTick (ReceiverWorker.calmEnv 0) 0 0) = some { waited with
          session := (system.session.tick heartbeatInterval waited.tickEnv).2
          lastTick := waited.now
          acked := []
          sent := [] } := if_pos hnonce
    refine ⟨inputs ++ [.wait 1] ++ [.senderTick (ReceiverWorker.calmEnv 0) 0 0], _,
      Transition.run_append_singleton.2
        ⟨_, Transition.run_append_singleton.2 ⟨_, hrun, hwait⟩, htick⟩, ?_⟩
    exact ⟨(congrArg Prod.fst hbeat).trans hsilent.streaming,
      (congrArg (fun beat ↦ beat.2.1) hbeat).trans hsilent.lastHeartbeat, hsilent.worker,
      hsilent.lastTurn, hnow, rfl⟩

/-- From the last moment without a heartbeat to the end of the grace period it is at most a gap. -/
theorem remainder_le {interval gap grace : ℕ} (h : grace < interval + gap) :
    grace - min (interval - 1) grace ≤ gap := by
  omega

/-- **Otherwise the worker gives up**: its first tick comes when the grace period is over and the
heartbeat is not sent yet. -/
theorem exists_timesOut {opened : IdleSession} (hgap : 0 < tickGap) (hinterval : 0 < heartbeatInterval)
    (hopened : Silent heartbeatInterval opened 0 opened)
    (hworker : Listens opened.worker profile opened.session.lastHeartbeat)
    (hturn : opened.lastTurn + opened.worker.nextWaitDuration opened.lastTurn ≤
      opened.session.lastHeartbeat + profile.reconnectGracePeriod)
    (hover : profile.reconnectGracePeriod < heartbeatInterval + tickGap) :
    ∃ inputs system input, Transition.run (step secsF64 heartbeatInterval tickGap) opened inputs =
      some system ∧ system.TimesOut input := by
  let elapsed := min (heartbeatInterval - 1) profile.reconnectGracePeriod
  have helapsed : elapsed < heartbeatInterval :=
    (Nat.min_le_left _ _).trans_lt (Nat.sub_lt hinterval Nat.one_pos)
  obtain ⟨inputs, system, hrun, hsilent⟩ := @silent_run secsF64 _ _ _ hgap hopened elapsed helapsed
  let duration := profile.reconnectGracePeriod - elapsed
  have hnow : system.now + duration =
      opened.session.lastHeartbeat + profile.reconnectGracePeriod := by
    rw [hsilent.now, Nat.add_assoc, Nat.add_sub_cancel' (Nat.min_le_right _ _)]
  have hwait : system.step secsF64 heartbeatInterval tickGap (.wait duration) =
      some { system with now := system.now + duration } := if_pos (by
    rw [hsilent.lastTick]
    exact Nat.add_le_add_left (remainder_le hover) _)
  refine ⟨inputs ++ [.wait duration], _, .receiverTick (ReceiverWorker.calmEnv 0),
    Transition.run_append_singleton.2 ⟨_, hrun, hwait⟩, ?_, ?_⟩
  · show system.lastTurn + system.worker.nextWaitDuration system.lastTurn ≤ system.now + duration
    rw [hsilent.worker, hsilent.lastTurn, hnow]
    exact hturn
  · refine ((hsilent.worker ▸ hworker).departure_iff _).2 ?_
    show profile.reconnectGracePeriod ≤ system.now + duration - opened.session.lastHeartbeat
    rw [hnow, Nat.add_sub_cancel_left]

end IdleSession

/-! ### A session that has just been opened -/

/-- What a receiver hands to each of its sessions. -/
def AppConfig.sessionArgs (peerAddr : SocketAddr) (config : AppConfig) : SessionArgs where
  peerAddr
  receiverName := config.receiver.advertisedName
  latencyPreset := config.receiver.latencyPreset
  heartbeatIntervalMs := config.transport.heartbeatIntervalMs

/-- Two configurations that need no repair, a session the sender has opened with the one, and the worker
that runs with the other, at the moment both ends have the connection. -/
structure OpenedSession where
  secsF64 : SecsF64
  format : WireFormat
  sender : AppConfig
  receiver : AppConfig
  sender_repaired : sender.repaired.config = sender
  receiver_repaired : receiver.repaired.config = receiver
  setup : SenderSetup
  setup_config : setup.config = sender.transport
  env : ConnectEnv
  stream : TcpStream
  target : SenderTarget
  attemptCount : ℕ
  session : ManagedTargetSession
  connected : ManagedTargetSession.connect secsF64 format env stream target attemptCount
    (SenderManager.new secsF64 setup).connectRequest = .ok session
  peerAddr : SocketAddr
  /-- The worker before it hears of the session. -/
  idle : ReceiverWorker
  idle_profile : idle.bufferProfile = receiver.receiver.latencyPreset.profile
  accepting : HandlerEnv
  /-- The playback engine starts, and the connection is announced as soon as the sender has it. -/
  accepted : (idle.handleConnect secsF64 accepting (connectionFor (receiver.sessionArgs peerAddr)
    (ManagedTargetSession.helloFor env target
      (SenderManager.new secsF64 setup).connectRequest))).connection.isSome = true
  at_once : accepting.now 0 = session.lastHeartbeat

namespace OpenedSession

variable (opened : OpenedSession)

/-- The interval at which the sender says heartbeats. -/
def heartbeatInterval : Duration := (SenderManager.new opened.secsF64 opened.setup).heartbeatInterval

def profile : ReceiverLatencyProfile := opened.receiver.receiver.latencyPreset.profile

def hello : HelloMessage :=
  ManagedTargetSession.helloFor opened.env opened.target
    (SenderManager.new opened.secsF64 opened.setup).connectRequest

/-- The `Accept` the sender gets. -/
def accept : AcceptMessage := acceptFor (opened.receiver.sessionArgs opened.peerAddr) opened.hello

/-- The session when it begins. -/
def start : IdleSession where
  now := opened.session.lastHeartbeat
  session := opened.session
  worker := opened.idle.handleConnect opened.secsF64 opened.accepting
    (connectionFor (opened.receiver.sessionArgs opened.peerAddr) opened.hello)
  lastTick := opened.session.lastHeartbeat
  lastTurn := opened.session.lastHeartbeat

/-- The session is kept alive, if the sender ticks at least every `tickGap`. -/
structure KeptAlive (tickGap : Duration) : Prop where
  /-- Heartbeats come at least as often as the `Accept` says. -/
  keepalive : opened.heartbeatInterval ≤
    Duration.fromMillis opened.accept.keepaliveIntervalMs.toNat
  /-- And before the receiver loses patience. -/
  grace : opened.heartbeatInterval < opened.profile.reconnectGracePeriod
  /-- `check_transport_timeout` never gives the session up. -/
  held : ∀ inputs system input,
    Transition.run (IdleSession.step opened.secsF64 opened.heartbeatInterval tickGap) opened.start
      inputs = some system → ¬system.TimesOut input

variable {opened}

/-- The repaired interval is a quarter of a second at least. -/
theorem heartbeatIntervalMs_ge : 250 ≤ opened.sender.transport.heartbeatIntervalMs :=
  of_decide_eq_true
    ((opened.sender.repaired_eq_self_iff.1 opened.sender_repaired).transport.heartbeatIntervalMs)

theorem heartbeatInterval_eq : opened.heartbeatInterval =
    Duration.fromMillis opened.sender.transport.heartbeatIntervalMs.toNat := by
  have hge : 250 ≤ opened.sender.transport.heartbeatIntervalMs.toNat :=
    UInt16.le_iff_toNat_le.1 opened.heartbeatIntervalMs_ge
  show Duration.fromMillis (max opened.setup.config.heartbeatIntervalMs.toNat 250) = _
  rw [opened.setup_config, Nat.max_eq_left hge]

/-- So there is time between two heartbeats. -/
theorem heartbeatInterval_pos : 0 < opened.heartbeatInterval := by
  have hge := UInt16.le_iff_toNat_le.1 opened.heartbeatIntervalMs_ge
  rw [heartbeatInterval_eq]
  exact Nat.mul_pos ((by decide : 0 < (250 : UInt16).toNat).trans_le hge) (by decide)

/-- **The keepalive of the `Accept`** is the sender's own interval, unless the receiver's is shorter. -/
theorem keepalive_iff : opened.heartbeatInterval ≤
      Duration.fromMillis opened.accept.keepaliveIntervalMs.toNat ↔
    opened.sender.transport.heartbeatIntervalMs ≤ opened.receiver.transport.heartbeatIntervalMs := by
  have hge := UInt16.le_iff_toNat_le.1 opened.heartbeatIntervalMs_ge
  have hkeepalive : opened.accept.keepaliveIntervalMs.toNat =
      min opened.receiver.transport.heartbeatIntervalMs.toNat
        opened.sender.transport.heartbeatIntervalMs.toNat := by
    show (min opened.receiver.transport.heartbeatIntervalMs
      (max opened.setup.config.heartbeatIntervalMs 250)).toNat = _
    rw [UInt16.toNat_min, UInt16.toNat_max, opened.setup_config, Nat.max_eq_left hge]
  rw [heartbeatInterval_eq, hkeepalive, UInt16.le_iff_toNat_le, Duration.fromMillis,
    Duration.fromMillis, Nat.mul_le_mul_right_iff (by decide), Nat.le_min]
  exact and_iff_left le_rfl

/-- The worker holds the connection and counts from the moment it got it. -/
theorem listens_start :
    IdleSession.Listens opened.start.worker opened.profile opened.session.lastHeartbeat := by
  have hlistens := IdleSession.listens_handleConnect opened.accepted
  rw [opened.idle_profile, opened.at_once] at hlistens
  exact hlistens

/-- Nothing has been said when the session opens. -/
theorem silent_start :
    IdleSession.Silent opened.heartbeatInterval opened.start 0 opened.start :=
  ⟨(ManagedTargetSession.connect_agrees opened.connected).state, rfl, rfl, rfl, rfl, rfl⟩

/-- Both ends count from the same moment. -/
theorem beats_start (tickGap : Duration) :
    IdleSession.Beats opened.heartbeatInterval tickGap opened.profile opened.start :=
  ⟨(ManagedTargetSession.connect_agrees opened.connected).state, listens_start,
    Nat.lt_add_of_pos_right heartbeatInterval_pos, Nat.le_add_right _ _⟩

end OpenedSession

/-- The worker waits at most 200 milliseconds, -/
theorem ReceiverWorker.nextWaitDuration_le (now : Instant) (worker : ReceiverWorker) :
    worker.nextWaitDuration now ≤ Duration.fromMillis 200 := by
  refine max_le ?_ (by decide)
  rcases worker.lastTransportActivity with - | lastActivity
  · rcases worker.nextPlaybackDeadline with - | deadline
    · exact le_rfl
    · exact min_le_left _ _
  · refine (min_le_left _ _).trans ?_
    rcases worker.nextPlaybackDeadline with - | deadline
    · exact le_rfl
    · exact min_le_left _ _

/-- which is shorter than any grace period. -/
theorem ReceiverLatencyPreset.grace_ge (preset : ReceiverLatencyPreset) :
    Duration.fromMillis 200 ≤ preset.profile.reconnectGracePeriod := by
  cases preset with
  | _ => decide

namespace OpenedSession

variable {opened : OpenedSession}

/-- **Which idle sessions are kept alive**: those whose sender is configured for heartbeats no rarer than
the receiver's, and whose interval fits into the receiver's grace period, with a gap between two ticks to
spare. -/
theorem keptAlive_iff (opened : OpenedSession) {tickGap : Duration} (hgap : 0 < tickGap) :
    opened.KeptAlive tickGap ↔
      opened.sender.transport.heartbeatIntervalMs ≤ opened.receiver.transport.heartbeatIntervalMs ∧
        Duration.fromMillis opened.sender.transport.heartbeatIntervalMs.toNat + tickGap ≤
          opened.receiver.receiver.latencyPreset.profile.reconnectGracePeriod := by
  rw [← heartbeatInterval_eq, ← keepalive_iff]
  constructor
  · rintro ⟨hkeepalive, -, hheld⟩
    refine ⟨hkeepalive, Nat.not_lt.1 fun hover ↦ ?_⟩
    have hturn : opened.start.lastTurn + opened.start.worker.nextWaitDuration opened.start.lastTurn ≤
        opened.start.session.lastHeartbeat + opened.profile.reconnectGracePeriod :=
      Nat.add_le_add_left ((ReceiverWorker.nextWaitDuration_le _ _).trans
        (ReceiverLatencyPreset.grace_ge _)) _
    obtain ⟨inputs, system, input, hrun, htimesOut⟩ :=
      IdleSession.exists_timesOut hgap heartbeatInterval_pos silent_start listens_start hturn hover
    exact hheld inputs system input hrun htimesOut
  · rintro ⟨hkeepalive, hfits⟩
    refine ⟨hkeepalive, (Nat.lt_add_of_pos_right hgap).trans_le hfits, ?_⟩
    intro inputs system input hrun
    have hbeats : IdleSession.Beats opened.heartbeatInterval tickGap opened.profile system :=
      Transition.run_invariant
        (fun _ _ _ hbeats hstep ↦ IdleSession.beats_step heartbeatInterval_pos hfits hbeats hstep)
        (beats_start tickGap) hrun
    exact hbeats.not_timesOut heartbeatInterval_pos hfits

end OpenedSession

/-! ### Default configurations -/

namespace Sample

/-- The default configuration, with this preset for the receiver. -/
def configWith (latencyPreset : ReceiverLatencyPreset) : AppConfig :=
  { receiver := { latencyPreset } }

/-- The session a sender opens with a receiver that accepts. -/
def openedSession : ManagedTargetSession :=
  (ManagedTargetSession.connect secsF64 senderFormat accepted ⟨0⟩ (senderTarget 51700) 1
    connectRequest).toOption.get (by decide +kernel)

/-- Both ends run with default configurations, but for the receiver's preset. -/
def openedWith (latencyPreset : ReceiverLatencyPreset) : OpenedSession where
  secsF64
  format := senderFormat
  sender := {}
  receiver := configWith latencyPreset
  sender_repaired := by decide
  receiver_repaired := by
    cases latencyPreset with
    | _ => decide
  setup := senderSetup
  setup_config := rfl
  env := accepted
  stream := ⟨0⟩
  target := senderTarget 51700
  attemptCount := 1
  session := openedSession
  connected := by
    rw [openedSession]
    rcases hconnect : ManagedTargetSession.connect secsF64 senderFormat accepted ⟨0⟩
      (senderTarget 51700) 1 (SenderManager.new secsF64 senderSetup).connectRequest with
      failure | session
    · have hopened : (ManagedTargetSession.connect secsF64 senderFormat accepted ⟨0⟩
        (senderTarget 51700) 1 connectRequest).isOk = true := by decide +kernel
      rw [show ManagedTargetSession.connect secsF64 senderFormat accepted ⟨0⟩ (senderTarget 51700) 1
        connectRequest = _ from hconnect] at hopened
      cases hopened
    · refine congrArg Except.ok (Option.get_of_eq_some _ ?_).symm
      rw [show ManagedTargetSession.connect secsF64 senderFormat accepted ⟨0⟩ (senderTarget 51700) 1
        connectRequest = _ from hconnect]
      rfl
  peerAddr := args.peerAddr
  idle := .new secsF64 none latencyPreset
  idle_profile := rfl
  accepting := ReceiverWorker.calmEnv 0
  accepted := rfl
  at_once := by decide +kernel

/-- The sender ticks every five milliseconds for three quarters of a second; then the worker ticks. -/
def punctualSender : List IdleInput :=
  (List.replicate 150 [.wait (Duration.fromMillis 5), .senderTick (ReceiverWorker.calmEnv 0) 0 0]).flatten ++
    [.receiverTick (ReceiverWorker.calmEnv 0)]

end Sample

/-- **An idle session is given up** though nothing is wrong with it. With default configurations, but for
the receiver's preset, the heartbeat is due after a second, and the worker waits three quarters of one. -/
theorem idle_session_given_up :
    ¬(Sample.openedWith .lowLatency).KeptAlive (Duration.fromMillis 5) ∧
      (Transition.run (IdleSession.step Sample.secsF64 (Sample.openedWith .lowLatency).heartbeatInterval
          (Duration.fromMillis 5)) (Sample.openedWith .lowLatency).start Sample.punctualSender).map
        (fun system ↦ (system.worker.connection, system.worker.lastError,
          system.session.snapshot.state)) =
      some (none, some "receiver transport timed out", .streaming) := by
  refine ⟨fun hkept ↦ absurd hkept.grace (by decide +kernel), ?_⟩
  decide +kernel

/-- With the receiver's default preset the session is kept. -/
theorem OpenedSession.keptAlive_iff_balanced :
    (Sample.openedWith .balanced).KeptAlive (Duration.fromMillis 5) :=
  ((Sample.openedWith .balanced).keptAlive_iff (by decide)).2 (by decide +kernel)

end SynchroSonic
