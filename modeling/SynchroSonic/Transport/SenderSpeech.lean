import SynchroSonic.Machine.Transition
import SynchroSonic.Transport.Agreement
import SynchroSonic.Transport.SessionThreads

/-!
# What a sender says

The socket of a session carries one `Hello`, then audio frames and heartbeats and at most one `Stop`,
which is the last. The argument follows the controls and the frames from where they are put in to the
socket: a heartbeat takes the next nonce when it is sent, and the channel, the queue and the thread keep
the order.

`Speaks` is the invariant. A message that does not encode, or whose write fails, is the last the thread
turns to, so every earlier one is on the socket in full.
-/

namespace SynchroSonic

/-! ### What a tick and a push do to the channels -/

namespace ManagedTargetSession

/-- What the writer thread is fed with. -/
def feed (session : ManagedTargetSession) : BufferedBranchQueue FanoutAudioFrame × ℕ :=
  (session.networkBranch, session.heartbeatNonce)

theorem feed_handleInbound (now : Instant) (session : ManagedTargetSession)
    (inbound : InboundControl) : (session.handleInbound now inbound).feed = session.feed := by
  cases inbound with
  | heartbeatAck nonce wireBytes =>
    rw [handleInbound]
    dsimp only
    split
    · rfl
    · rfl
  | _ => rfl

theorem feed_handleNetworkEvent (now : Instant) (session : ManagedTargetSession)
    (event : NetworkEvent) : (session.handleNetworkEvent now event).feed = session.feed := by
  cases event with
  | _ => rfl

theorem feed_refreshHealth (session : ManagedTargetSession) :
    session.refreshHealth.feed = session.feed := by
  rw [refreshHealth]
  split
  · rfl
  · rfl

theorem feed_heartbeat (heartbeatInterval : Duration) (writerListens : Bool)
    (checkedAt sentAt rearmedAt : Instant) (session : ManagedTargetSession) :
    (session.heartbeat heartbeatInterval writerListens checkedAt sentAt rearmedAt).feed =
        session.feed ∨
      (session.heartbeat heartbeatInterval writerListens checkedAt sentAt rearmedAt).feed =
        (session.networkBranch, session.heartbeatNonce + 1) := by
  rw [heartbeat]
  split
  · refine Or.inr ?_
    dsimp only
    split
    · rfl
    · rfl
  · exact Or.inl rfl

/-- **A tick** leaves the queue alone and takes at most the next nonce. -/
theorem feed_tick (heartbeatInterval : Duration) {env : TickEnv} (hconsumed : env.consumed = 0)
    (session : ManagedTargetSession) :
    (session.tick heartbeatInterval env).2.feed = session.feed ∨
      (session.tick heartbeatInterval env).2.feed =
        (session.networkBranch, session.heartbeatNonce + 1) := by
  have hfold {ι : Type} (update : ManagedTargetSession → ι → ManagedTargetSession)
      (hupdate : ∀ session i, (update session i).feed = session.feed) (is : List ι)
      (session : ManagedTargetSession) : (is.foldl update session).feed = session.feed := by
    induction is generalizing session with
    | nil => rfl
    | cons i is ih => exact (ih (update session i)).trans (hupdate session i)
  have hconsume (session : ManagedTargetSession) :
      ((session.consume env.consumed).refreshBuffer.refreshHealth).feed = session.feed := by
    rw [feed_refreshHealth, hconsumed]
    rfl
  unfold tick
  dsimp only
  rw [hconsume]
  have hreports := (hfold (fun session (item : NetworkEvent × ℕ) ↦
      session.handleNetworkEvent (env.now (env.inbound.length + item.2)) item.1)
    (fun session item ↦ feed_handleNetworkEvent _ session item.1) env.events.zipIdx _).trans
    (hfold (fun session (item : InboundControl × ℕ) ↦
        session.handleInbound (env.now item.2) item.1)
      (fun session item ↦ feed_handleInbound _ session item.1) env.inbound.zipIdx session)
  have hbranch := congrArg Prod.fst hreports
  have hnonce := congrArg Prod.snd hreports
  rcases feed_heartbeat heartbeatInterval env.writerListens _ _ _ _ with hfeed | hfeed
  · exact Or.inl (hfeed.trans hreports)
  · exact Or.inr (hfeed.trans (Prod.ext hbranch (congrArg (· + 1) hnonce)))

theorem feed_pushFrame (env : QueueEnv) (frame : FanoutAudioFrame)
    (session : ManagedTargetSession) :
    (session.pushFrame env frame).2.feed =
      ((session.networkBranch.push env frame).2, session.heartbeatNonce) := by
  rw [pushFrame]
  rcases session.networkBranch.push env frame with ⟨error | outcome, networkBranch⟩
  · rfl
  · dsimp only
    rw [feed_refreshHealth]
    rfl

end ManagedTargetSession

/-- **A push** moves frames to the consumer and appends its own, or drops some. -/
theorem BufferedBranchQueue.push_sublist {T : Type} (env : QueueEnv) (item : T)
    (queue : BufferedBranchQueue T) :
    (queue.takenInPush env ++ (queue.push env item).2.items).Sublist (queue.items ++ [item]) := by
  unfold takenInPush push
  split
  · exact List.sublist_append_left queue.items [item]
  split
  · exact List.Sublist.refl _
  have hsplit : queue.items = queue.items.take env.taken ++ queue.items.drop env.taken :=
    (List.take_append_drop _ _).symm
  rcases hdrop : queue.items.drop env.taken with - | ⟨oldest, rest⟩
  · rw [hdrop, List.append_nil] at hsplit
    dsimp only
    rw [← hsplit, List.append_nil]
    exact List.sublist_append_left queue.items [item]
  · rw [hdrop] at hsplit
    dsimp only
    rw [← List.append_assoc]
    refine List.Sublist.append ?_ (List.Sublist.refl [item])
    conv_rhs => rw [hsplit]
    exact (List.Sublist.refl _).append (List.sublist_cons_self oldest rest)

/-! ### One message -/

/-- After this message the thread may say more. -/
def SenderMessage.GoesOn (format : WireFormat) (message : SenderMessage) : Prop :=
  message.isStop = false ∧ (message.frame? format).isSome = true

theorem SenderMessage.wrote_write (format : WireFormat) (socket : Writer) (message : SenderMessage) :
    Wrote socket (message.write format socket).2 (message.frame? format).toList
        ((message.write format socket).1.isOk = true) ∧
      ((message.write format socket).1.isOk = true → (message.frame? format).isSome = true) := by
  cases message with
  | audio frame => exact wrote_writeMessage format.audio .audio _ frame.payload socket
  | heartbeat nonce => exact wrote_writeMessage format.heartbeat .heartbeat _ [] socket
  | stop reason => exact wrote_writeMessage format.stop .stop _ [] socket

/-- **What the thread does to its socket** with one message. -/
theorem NetworkWriter.wrote_say (format : WireFormat) (heard : Bool) (message : SenderMessage)
    (writer : NetworkWriter) :
    Wrote writer.socket (writer.say format heard message).socket (message.frame? format).toList
        ((writer.say format heard message).phase ≠ .ended) ∧
      ((writer.say format heard message).phase ≠ .ended → message.GoesOn format) := by
  obtain ⟨hwrote, hencodes⟩ := message.wrote_write format writer.socket
  rw [say]
  rcases hwrite : message.write format writer.socket with ⟨error | wireBytes, socket⟩
  · rw [hwrite] at hwrote
    exact ⟨hwrote.imp fun hphase ↦ absurd rfl hphase, fun hphase ↦ absurd rfl hphase⟩
  · rw [hwrite] at hwrote hencodes
    dsimp only
    refine ⟨hwrote.imp fun _ ↦ rfl, fun hphase ↦ ⟨?_, hencodes rfl⟩⟩
    split at hphase
    next hgoes =>
      rw [Bool.and_eq_true, Bool.not_eq_true'] at hgoes
      exact hgoes.2
    · exact absurd rfl hphase

/-! ### The invariant -/

/-- The nonce a control carries. -/
def NetworkControl.nonce? : NetworkControl → Option ℕ
  | .heartbeat nonce => some nonce
  | _ => none

namespace VoicedSession

variable {format : WireFormat} {before : Writer} {hello : List FrameBody}
  {voiced next : VoicedSession}

/-- The frames of what has been said. -/
def bodies (format : WireFormat) (voiced : VoicedSession) : List FrameBody :=
  voiced.said.filterMap (SenderMessage.frame? format)

/-- What has been put in and not been said yet is behind what has been said. -/
structure Speaks (format : WireFormat) (before : Writer) (hello : List FrameBody)
    (voiced : VoicedSession) : Prop where
  wrote : Wrote before voiced.writer.socket (hello ++ voiced.bodies format)
    (voiced.writer.phase ≠ .ended)
  heartbeats : ∃ issued, voiced.said.filterMap SenderMessage.nonce? ++
      voiced.controls.filterMap NetworkControl.nonce? = List.range' 1 issued ∧
    (voiced.writer.phase ≠ .ended → issued = voiced.session.heartbeatNonce)
  audio : (voiced.said.filterMap SenderMessage.audio? ++
    (voiced.hand ++ voiced.session.networkBranch.items)).Sublist voiced.pushed
  running : voiced.writer.phase ≠ .ended → ∀ message ∈ voiced.said, message.GoesOn format
  earlier : ∀ message ∈ voiced.said.dropLast, message.GoesOn format

/-- The thread says something, and the channels shrink accordingly. -/
theorem Speaks.say (h : voiced.Speaks format before hello) {heard : Bool} {message : SenderMessage}
    (hphase : voiced.writer.phase ≠ .ended) (hwriter : next.writer = voiced.writer.say format heard message)
    (hsaid : next.said = voiced.said ++ [message]) (hpushed : next.pushed = voiced.pushed)
    (hnonce : next.session.heartbeatNonce = voiced.session.heartbeatNonce)
    (hcontrols : message.nonce?.toList ++ next.controls.filterMap NetworkControl.nonce? =
      voiced.controls.filterMap NetworkControl.nonce?)
    (hframes : message.audio?.toList ++ (next.hand ++ next.session.networkBranch.items) =
      voiced.hand ++ voiced.session.networkBranch.items) :
    next.Speaks format before hello := by
  have hsingle {β : Type} (f : SenderMessage → Option β) :
      next.said.filterMap f = voiced.said.filterMap f ++ (f message).toList := by
    rw [hsaid, List.filterMap_append]
    rcases hvalue : f message with - | value
    · rw [List.filterMap_cons_none hvalue]
      rfl
    · rw [List.filterMap_cons_some hvalue]
      rfl
  obtain ⟨hwrote, hgoes⟩ := voiced.writer.wrote_say format heard message
  refine ⟨?_, ?_, ?_, fun hnext ↦ ?_, ?_⟩
  · rw [hwriter, bodies, hsingle, ← List.append_assoc]
    exact (h.wrote.imp fun _ ↦ hphase).trans hwrote
  · obtain ⟨issued, hissued, hcount⟩ := h.heartbeats
    refine ⟨issued, ?_, fun _ ↦ (hcount hphase).trans hnonce.symm⟩
    rw [hsingle, List.append_assoc, hcontrols]
    exact hissued
  · rw [hsingle, List.append_assoc, hframes, hpushed]
    exact h.audio
  · rw [hsaid]
    intro other hmem
    rcases List.mem_append.1 hmem with hother | hother
    · exact h.running hphase other hother
    · obtain rfl := List.mem_singleton.1 hother
      exact hgoes (hwriter ▸ hnext)
  · rw [hsaid, List.dropLast_concat]
    exact h.running hphase

/-- Nothing is said, and the channels keep their order. -/
theorem Speaks.silent (h : voiced.Speaks format before hello)
    (hsocket : next.writer.socket = voiced.writer.socket)
    (hphase : next.writer.phase ≠ .ended → voiced.writer.phase ≠ .ended)
    (hsaid : next.said = voiced.said)
    (hheartbeats : ∃ more, next.controls.filterMap NetworkControl.nonce? =
        voiced.controls.filterMap NetworkControl.nonce? ++ more ∧
      (more = [] ∧ (next.writer.phase ≠ .ended →
          next.session.heartbeatNonce = voiced.session.heartbeatNonce) ∨
        voiced.writer.phase ≠ .ended ∧ more = [voiced.session.heartbeatNonce + 1] ∧
          next.session.heartbeatNonce = voiced.session.heartbeatNonce + 1))
    (hframes : ∃ more, (next.hand ++ next.session.networkBranch.items).Sublist
        (voiced.hand ++ voiced.session.networkBranch.items ++ more) ∧
      next.pushed = voiced.pushed ++ more) :
    next.Speaks format before hello := by
  refine ⟨?_, ?_, ?_, fun hnext ↦ ?_, ?_⟩
  · rw [hsocket, bodies, hsaid]
    exact h.wrote.imp hphase
  · obtain ⟨issued, hissued, hcount⟩ := h.heartbeats
    obtain ⟨more, hmore, ⟨rfl, hnonce⟩ | ⟨hrunning, rfl, hnonce⟩⟩ := hheartbeats
    · refine ⟨issued, ?_, fun hnext ↦ (hcount (hphase hnext)).trans (hnonce hnext).symm⟩
      rw [hsaid, hmore, List.append_nil]
      exact hissued
    · refine ⟨issued + 1, ?_, fun _ ↦ ?_⟩
      · rw [hsaid, hmore, ← List.append_assoc, hissued, List.range'_1_concat, hcount hrunning,
          Nat.add_comm]
      · rw [hcount hrunning, hnonce]
  · obtain ⟨more, hmore, hpushed⟩ := hframes
    rw [hsaid, hpushed]
    refine ((List.Sublist.refl _).append hmore).trans ?_
    rw [← List.append_assoc]
    exact h.audio.append (List.Sublist.refl more)
  · rw [hsaid]
    exact h.running (hphase hnext)
  · rw [hsaid]
    exact h.earlier

/-- The thread goes from one part of its loop to another. -/
theorem Speaks.setPhase (h : voiced.Speaks format before hello) (phase : WriterPhase)
    (hphase : phase ≠ .ended → voiced.writer.phase ≠ .ended) :
    (voiced.setPhase phase).Speaks format before hello :=
  h.silent rfl hphase rfl ⟨[], (List.append_nil _).symm, Or.inl ⟨rfl, fun _ ↦ rfl⟩⟩
    ⟨[], by rw [List.append_nil]; exact List.Sublist.refl _, (List.append_nil _).symm⟩

/-- A tick sends the next heartbeat to a thread that takes controls, or none. -/
theorem speaks_tick {heartbeatInterval : Duration} {env : TickEnv}
    (h : voiced.Speaks format before hello)
    (hstep : voiced.step format (.tick heartbeatInterval env) = some next) :
    next.Speaks format before hello := by
  simp only [step] at hstep
  split at hstep
  · cases hstep
  obtain rfl := Option.some.inj hstep
  have hfeed := @ManagedTargetSession.feed_tick heartbeatInterval (voiced.tickEnv env) rfl
    voiced.session
  have hbranch : (voiced.session.tick heartbeatInterval (voiced.tickEnv env)).2.networkBranch =
      voiced.session.networkBranch := by
    rcases hfeed with hfeed | hfeed
    · exact congrArg Prod.fst hfeed
    · exact congrArg Prod.fst hfeed
  refine h.silent rfl id rfl ?_ ⟨[], ?_, (List.append_nil _).symm⟩
  · refine ⟨_, List.filterMap_append, ?_⟩
    rcases hfeed with hfeed | hfeed
    · have hnonce := congrArg Prod.snd hfeed
      refine Or.inl ⟨?_, fun _ ↦ hnonce⟩
      rw [heartbeatControl, if_neg fun hsent ↦ absurd hnonce hsent.2.ne']
      rfl
    · -- the nonce moves also when the thread is gone, and then no control carries it
      have hnonce := congrArg Prod.snd hfeed
      rcases hlistens : voiced.listens with - | -
      · refine Or.inl ⟨?_, fun hphase ↦ absurd hphase (of_decide_eq_false hlistens)⟩
        rw [heartbeatControl, if_neg fun hsent ↦ Bool.false_ne_true (hlistens.symm.trans hsent.1)]
        rfl
      · refine Or.inr ⟨of_decide_eq_true hlistens, ?_, hnonce⟩
        rw [heartbeatControl, if_pos ⟨hlistens, (Nat.lt_succ_self _).trans_eq hnonce.symm⟩]
        exact congrArg (fun nonce ↦ [nonce]) hnonce
  · rw [List.append_nil]
    dsimp only
    rw [hbranch]

/-- A push drops from the queue at most, and the thread's hand holds what it took meanwhile. -/
theorem speaks_pushFrame {env : QueueEnv} {frame : FanoutAudioFrame}
    (h : voiced.Speaks format before hello)
    (hstep : voiced.step format (.pushFrame env frame) = some next) :
    next.Speaks format before hello := by
  simp only [step] at hstep
  split at hstep
  · cases hstep
  obtain rfl := Option.some.inj hstep
  have hfeed := ManagedTargetSession.feed_pushFrame env frame voiced.session
  refine h.silent rfl id rfl ⟨[], (List.append_nil _).symm, Or.inl ⟨rfl, fun _ ↦ ?_⟩⟩
    ⟨[frame], ?_, rfl⟩
  · exact congrArg Prod.snd hfeed
  · dsimp only
    rw [show (voiced.session.pushFrame env frame).2.networkBranch = _ from congrArg Prod.fst hfeed,
      List.append_assoc, List.append_assoc]
    exact (List.Sublist.refl _).append (BufferedBranchQueue.push_sublist env frame _)

/-- The thread takes up the oldest control. -/
theorem speaks_control {heard : Bool} (h : voiced.Speaks format before hello)
    (hstep : voiced.step format (.control heard) = some next) : next.Speaks format before hello := by
  simp only [step] at hstep
  rcases hcontrols : voiced.controls with - | ⟨control, controls⟩
  · rw [hcontrols] at hstep
    cases hstep
  rw [hcontrols] at hstep
  dsimp only at hstep
  split at hstep
  next hphase =>
    have hrunning : voiced.writer.phase ≠ .ended := by
      rw [hphase]
      exact WriterPhase.noConfusion
    obtain rfl := Option.some.inj hstep
    cases control with
    | heartbeat nonce =>
      exact h.say hrunning rfl rfl rfl rfl (by rw [hcontrols]; rfl) rfl
    | stop reason => exact h.say hrunning rfl rfl rfl rfl (by rw [hcontrols]; rfl) rfl
    | shutdown =>
      -- the thread ends without a word
      exact h.silent rfl (fun hended ↦ absurd rfl hended) rfl
        ⟨[], by rw [hcontrols, List.append_nil]; rfl, Or.inl ⟨rfl, fun _ ↦ rfl⟩⟩
        ⟨[], by rw [List.append_nil]; rfl, (List.append_nil _).symm⟩
  · cases hstep

/-- The thread sends the oldest frame, out of its hand first. -/
theorem speaks_frame {heard : Bool} (h : voiced.Speaks format before hello)
    (hstep : voiced.step format (.frame heard) = some next) : next.Speaks format before hello := by
  simp only [step] at hstep
  split at hstep
  next hphase =>
    have hrunning : voiced.writer.phase ≠ .ended := by
      rw [hphase]
      exact WriterPhase.noConfusion
    rcases hhand : voiced.hand with - | ⟨frame, hand⟩
    · rcases hitems : voiced.session.networkBranch.items with - | ⟨frame, items⟩
      · rw [hhand, hitems] at hstep
        cases hstep
      · rw [hhand, hitems] at hstep
        obtain rfl := Option.some.inj hstep
        refine h.say hrunning rfl rfl rfl rfl rfl ?_
        rw [hhand, hitems]
        show [frame] ++ ([] ++ voiced.session.networkBranch.items.drop 1) = _
        rw [hitems]
        rfl
    · rw [hhand] at hstep
      obtain rfl := Option.some.inj hstep
      refine h.say hrunning rfl rfl rfl rfl rfl ?_
      rw [hhand]
      rfl
  · cases hstep

/-- **Every step of the session and of its thread keeps the order.** -/
theorem speaks_step {input : VoicedInput} (h : voiced.Speaks format before hello)
    (hstep : voiced.step format input = some next) : next.Speaks format before hello := by
  cases input with
  | tick heartbeatInterval env => exact speaks_tick h hstep
  | pushFrame env frame => exact speaks_pushFrame h hstep
  | stop reason =>
    simp only [step] at hstep
    split at hstep
    · cases hstep
    obtain rfl := Option.some.inj hstep
    exact h.silent rfl id rfl ⟨[], List.filterMap_append, Or.inl ⟨rfl, fun _ ↦ rfl⟩⟩
      ⟨[], by rw [List.append_nil], (List.append_nil _).symm⟩
  | shutdown =>
    simp only [step] at hstep
    split at hstep
    · cases hstep
    obtain rfl := Option.some.inj hstep
    exact h.silent rfl id rfl ⟨[], List.filterMap_append, Or.inl ⟨rfl, fun _ ↦ rfl⟩⟩
      ⟨[], by rw [List.append_nil], (List.append_nil _).symm⟩
  | control heard => exact speaks_control h hstep
  | noControl =>
    simp only [step] at hstep
    split at hstep
    next hphase =>
      obtain rfl := Option.some.inj hstep
      exact h.setPhase _ fun _ hended ↦ WriterPhase.noConfusion (hphase.1.symm.trans hended)
    · cases hstep
  | frame heard => exact speaks_frame h hstep
  | noFrame =>
    simp only [step] at hstep
    split at hstep
    next hphase =>
      obtain rfl := Option.some.inj hstep
      exact h.setPhase _ fun _ hended ↦ WriterPhase.noConfusion (hphase.symm.trans hended)
    · cases hstep
  | disconnected =>
    simp only [step] at hstep
    split at hstep
    next hphase =>
      obtain rfl := Option.some.inj hstep
      exact h.setPhase _ fun _ hended ↦ WriterPhase.noConfusion (hphase.symm.trans hended)
    · cases hstep

end VoicedSession

/-! ### Whole sessions -/

/-- A session opens with an empty queue and no heartbeat sent. -/
theorem ManagedTargetSession.feed_connect {secsF64 : SecsF64} {format : WireFormat} {env : ConnectEnv}
    {stream : TcpStream} {target : SenderTarget} {attemptCount : ℕ} {request : TargetConnectRequest}
    {session : ManagedTargetSession}
    (h : connect secsF64 format env stream target attemptCount request = .ok session) :
    session.networkBranch.items = [] ∧ session.heartbeatNonce = 0 := by
  have houtcome := connect_outcome secsF64 format env stream target attemptCount request
  rw [h] at houtcome
  cases houtcome with
  | opened sameStream sameTarget receiverId state retry unfed unasked => exact ⟨unfed, unasked⟩

/-- The language of a sender behind its `Hello`. -/
structure SenderSpeech (format : WireFormat) (pushed : List FanoutAudioFrame)
    (said : List SenderMessage) : Prop where
  /-- The audio frames come in the order in which they were queued, each at most once. -/
  audio : (said.filterMap SenderMessage.audio?).Sublist pushed
  /-- The heartbeats are numbered from 1. -/
  heartbeats : ∃ count, said.filterMap SenderMessage.nonce? = List.range' 1 count
  /-- A `Stop`, and a message that does not encode, is the last. -/
  earlier : ∀ message ∈ said.dropLast, message.GoesOn format

namespace VoicedSession

variable {secsF64 : SecsF64} {format : WireFormat} {env : ConnectEnv} {stream : TcpStream}
  {target : SenderTarget} {attemptCount : ℕ} {request : TargetConnectRequest}
  {session : ManagedTargetSession} {inputs : List VoicedInput} {voiced : VoicedSession}

/-- The `Hello` of an attempt as it is written. -/
def helloFrame (format : WireFormat) (env : ConnectEnv) (target : SenderTarget)
    (request : TargetConnectRequest) : List FrameBody :=
  (format.hello.frame? .hello (ManagedTargetSession.helloFor env target request) []).toList

/-- A session has been opened and its threads start. -/
def start (format : WireFormat) (env : ConnectEnv) (target : SenderTarget)
    (request : TargetConnectRequest) (session : ManagedTargetSession) : VoicedSession where
  session := session
  writer := { socket := (writeMessage format.hello .hello
    (ManagedTargetSession.helloFor env target request) [] env.writer).2 }

theorem speaks_start (h : ManagedTargetSession.connect secsF64 format env stream target attemptCount
      request = .ok session) :
    (start format env target request session).Speaks format env.writer
      (helloFrame format env target request) := by
  obtain ⟨size, hsent⟩ := (ManagedTargetSession.connect_agrees h).sent
  obtain ⟨hitems, hnonce⟩ := ManagedTargetSession.feed_connect h
  obtain ⟨hwrote, -⟩ := wrote_writeMessage format.hello .hello
    (ManagedTargetSession.helloFor env target request) [] env.writer
  refine ⟨?_, ⟨0, rfl, fun _ ↦ hnonce.symm⟩, ?_, fun _ message hmem ↦ ?_, fun message hmem ↦ ?_⟩
  · rw [bodies, start, List.filterMap_nil, List.append_nil]
    exact hwrote.imp fun _ ↦ congrArg Except.isOk hsent
  · rw [start, hitems]
    exact List.Sublist.refl _
  · exact absurd hmem List.not_mem_nil
  · exact absurd hmem List.not_mem_nil

/-- **What a session has said at any time.** -/
theorem sender_speech
    (h : ManagedTargetSession.connect secsF64 format env stream target attemptCount request =
      .ok session)
    (hrun : Transition.run (step format) (start format env target request session) inputs =
      some voiced) :
    Wrote env.writer voiced.writer.socket
        (helloFrame format env target request ++ voiced.bodies format)
        (voiced.writer.phase ≠ .ended) ∧
      SenderSpeech format voiced.pushed voiced.said := by
  have hspeaks := Transition.run_invariant (fun _ _ _ ↦ speaks_step) (speaks_start h) hrun
  obtain ⟨issued, hissued, -⟩ := hspeaks.heartbeats
  refine ⟨hspeaks.wrote, (List.sublist_append_left _ _).trans hspeaks.audio, ?_, hspeaks.earlier⟩
  obtain ⟨count, -, hcount, -⟩ := List.range'_eq_append_iff.1 hissued.symm
  exact ⟨count, hcount⟩

end VoicedSession

end SynchroSonic
