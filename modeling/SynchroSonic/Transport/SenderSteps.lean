import SynchroSonic.Transport.SenderRuns

/-!
# What the calls of the manager do

Everything the manager does to its collection is one of four things:

* `Refreshed` — nothing but what the sessions in it say about themselves;
* `Replaced` — an entry is put in place of another, which is dropped;
* `Retired` — an entry is given up, and the session it held is shut down;
* a pending entry is changed in its place.

Each call is covered once here, and the invariants are derived from these relations. The queues, the
mirror, the capture and the snapshots do not appear in them.
-/

namespace SynchroSonic

/-! ### Sessions -/

/-- The same session, at a later time. -/
structure ManagedTargetSession.SameSession (session later : ManagedTargetSession) : Prop where
  stream : later.stream = session.stream
  target : later.target = session.target
  receiverId : later.snapshot.receiverId = session.snapshot.receiverId

namespace ManagedTargetSession

variable {session later latest : ManagedTargetSession}

theorem SameSession.refl (session : ManagedTargetSession) : session.SameSession session :=
  ⟨rfl, rfl, rfl⟩

theorem SameSession.trans (h : session.SameSession later) (h' : later.SameSession latest) :
    session.SameSession latest :=
  ⟨h'.stream.trans h.stream, h'.target.trans h.target, h'.receiverId.trans h.receiverId⟩

/-- An error changes the snapshot alone. -/
theorem sameSession_setError (message : String) (health : StreamTargetHealth)
    (session : ManagedTargetSession) : session.SameSession (session.setError message health) :=
  ⟨rfl, rfl, rfl⟩

/-- The health is part of the snapshot. -/
theorem sameSession_refreshHealth (session : ManagedTargetSession) :
    session.SameSession session.refreshHealth := by
  unfold refreshHealth
  split <;> exact ⟨rfl, rfl, rfl⟩

/-- Whatever the receiver sends, the session stays the one it is: a failure is noted down, and seen by
`tick`. -/
theorem sameSession_handleInbound (now : Instant) (session : ManagedTargetSession)
    (inbound : InboundControl) : session.SameSession (session.handleInbound now inbound) := by
  cases inbound with
  | heartbeatAck nonce wireBytes =>
    unfold handleInbound
    dsimp only
    split <;> exact ⟨rfl, rfl, rfl⟩
  | stop reason wireBytes => exact ⟨rfl, rfl, rfl⟩
  | error message wireBytes => exact ⟨rfl, rfl, rfl⟩
  | disconnected => exact ⟨rfl, rfl, rfl⟩

/-- A report of the writer thread changes the counters and the error. -/
theorem sameSession_handleNetworkEvent (now : Instant) (session : ManagedTargetSession)
    (event : NetworkEvent) : session.SameSession (session.handleNetworkEvent now event) := by
  cases event <;> exact ⟨rfl, rfl, rfl⟩

/-- A heartbeat that is due moves the nonce and the deadline. -/
theorem sameSession_heartbeat (heartbeatInterval : Duration) (writerListens : Bool)
    (checkedAt sentAt rearmedAt : Instant) (session : ManagedTargetSession) :
    session.SameSession
      (session.heartbeat heartbeatInterval writerListens checkedAt sentAt rearmedAt) := by
  unfold heartbeat
  dsimp only
  split
  · split <;> exact ⟨rfl, rfl, rfl⟩
  · exact .refl session

/-- What the writer thread takes out of the queue shows in the snapshot only. -/
theorem sameSession_refreshBuffer (taken : ℕ) (session : ManagedTargetSession) :
    session.SameSession (session.consume taken).refreshBuffer :=
  ⟨rfl, rfl, rfl⟩

/-- The rule for ticks: what every part of a tick keeps, the tick keeps. -/
theorem tick_invariant {I : ManagedTargetSession → Prop}
    (hinbound : ∀ now session inbound, I session → I (session.handleInbound now inbound))
    (hevent : ∀ now session event, I session → I (session.handleNetworkEvent now event))
    (hheartbeat : ∀ interval writerListens checkedAt sentAt rearmedAt session, I session →
      I (session.heartbeat interval writerListens checkedAt sentAt rearmedAt))
    (hbuffer : ∀ taken session, I session → I (session.consume taken).refreshBuffer)
    (hhealth : ∀ session, I session → I session.refreshHealth)
    (heartbeatInterval : Duration) (env : TickEnv) {session : ManagedTargetSession}
    (hsession : I session) : I (session.tick heartbeatInterval env).2 := by
  have hfoldl {ι : Type} {update : ManagedTargetSession → ι → ManagedTargetSession}
      (hupdate : ∀ session i, I session → I (update session i)) (is : List ι)
      (session : ManagedTargetSession) (hsession : I session) : I (is.foldl update session) := by
    induction is generalizing session with
    | nil => exact hsession
    | cons i is ih => exact ih _ (hupdate session i hsession)
  unfold tick
  dsimp only
  refine hhealth _ (hbuffer _ _ (hheartbeat _ _ _ _ _ _ ?_))
  refine hfoldl (fun session (item : NetworkEvent × ℕ) ↦ hevent _ session item.1) _ _ ?_
  exact hfoldl (fun session (item : InboundControl × ℕ) ↦ hinbound _ session item.1) _ _ hsession

/-- A tick is made of the steps above, so the session comes out of it as the same one. -/
theorem sameSession_tick (heartbeatInterval : Duration) (env : TickEnv)
    (session : ManagedTargetSession) :
    session.SameSession (session.tick heartbeatInterval env).2 :=
  tick_invariant (fun _ _ inbound h ↦ h.trans (sameSession_handleInbound _ _ inbound))
    (fun _ _ event h ↦ h.trans (sameSession_handleNetworkEvent _ _ event))
    (fun _ _ _ _ _ _ h ↦ h.trans (sameSession_heartbeat _ _ _ _ _ _))
    (fun _ _ h ↦ h.trans (sameSession_refreshBuffer _ _))
    (fun _ h ↦ h.trans (sameSession_refreshHealth _)) heartbeatInterval env (.refl session)

end ManagedTargetSession

/-- A frame that is offered changes the queue of the session and its counters. -/
theorem SenderManager.sameSession_fanOut (env : ManagerEnv) (frame : FanoutAudioFrame)
    (deviceId : DeviceId) (session : ManagedTargetSession) :
    session.SameSession (fanOut env frame deviceId session).2 := by
  unfold fanOut ManagedTargetSession.pushFrame
  rcases session.networkBranch.push (env.queue deviceId) frame with ⟨error | outcome, networkBranch⟩
  · exact ⟨rfl, rfl, rfl⟩
  · refine .trans ?_ (ManagedTargetSession.sameSession_refreshHealth
      ({ session with networkBranch }).refreshBuffer)
    exact ⟨rfl, rfl, rfl⟩

/-! ### The relations -/

/-- An entry at a later time: a session may have changed what it says about itself. -/
inductive EntryRefreshed : Option TargetSessionEntry → Option TargetSessionEntry → Prop
  | same (entry : Option TargetSessionEntry) : EntryRefreshed entry entry
  | session {session later : ManagedTargetSession} (same : session.SameSession later) :
      EntryRefreshed (some (.active session)) (some (.active later))

/-- Refreshing an entry twice refreshes it. -/
theorem EntryRefreshed.trans {entry later latest : Option TargetSessionEntry}
    (h : EntryRefreshed entry later) (h' : EntryRefreshed later latest) :
    EntryRefreshed entry latest := by
  cases h with
  | same => exact h'
  | session same =>
    cases h' with
    | same => exact .session same
    | session same' => exact .session (same.trans same')

/-- An entry that belongs under this key. -/
def TargetSessionEntry.Keyed (deviceId : DeviceId) : TargetSessionEntry → Prop
  | .pending queued => queued.target.receiverId = deviceId ∧ queued.snapshot.receiverId = deviceId
  | .active session => session.target.receiverId = deviceId ∧ session.snapshot.receiverId = deviceId
  | .failed snapshot => snapshot.receiverId = deviceId

/-- Only sessions change. -/
theorem EntryRefreshed.eq_of_not_active {entry later : Option TargetSessionEntry}
    (h : EntryRefreshed entry later) (hidle : ∀ session, entry ≠ some (.active session)) :
    later = entry := by
  cases h with
  | same => rfl
  | session => exact absurd rfl (hidle _)

/-- A target that waits was not touched: only sessions are refreshed, and failed or stopped targets keep
what they have. -/
theorem EntryRefreshed.eq_of_pending {entry : Option TargetSessionEntry}
    {queued : PendingTargetSession} (h : EntryRefreshed entry (some (.pending queued))) :
    entry = some (.pending queued) := by
  cases h
  rfl

namespace SenderManager

variable {manager next latest : SenderManager} {deviceId other : DeviceId}

/-- The entry of a target. -/
def entryOf (manager : SenderManager) (deviceId : DeviceId) : Option TargetSessionEntry :=
  manager.targets.entries.lookup deviceId

/-- The streams the entry of a target holds. -/
def streamsAt (manager : SenderManager) (deviceId : DeviceId) : List TcpStream :=
  ((manager.entryOf deviceId).map TargetSessionEntry.streams).getD []

/-- What is outside the collection is as it was, except for the record of what became of sessions. -/
structure SameThreads (manager next : SenderManager) : Prop where
  threads : next.threads = manager.threads
  connectRx : next.connectRx = manager.connectRx
  nextAttempt : next.nextAttempt = manager.nextAttempt
  opened : next.opened = manager.opened

theorem SameThreads.trans (h : manager.SameThreads next) (h' : next.SameThreads latest) :
    manager.SameThreads latest :=
  ⟨h'.threads.trans h.threads, h'.connectRx.trans h.connectRx, h'.nextAttempt.trans h.nextAttempt,
    h'.opened.trans h.opened⟩

/-- The sessions may say something else about themselves. -/
structure Refreshed (manager next : SenderManager) : Prop extends SameThreads manager next where
  entry : ∀ deviceId, EntryRefreshed (manager.entryOf deviceId) (next.entryOf deviceId)
  shutDown : next.shutDown = manager.shutDown
  dropped : next.dropped = manager.dropped

/-- An entry was put in the place of another, which was dropped. -/
structure Replaced (deviceId : DeviceId) (entry : TargetSessionEntry)
    (manager next : SenderManager) : Prop extends SameThreads manager next where
  entry : next.entryOf deviceId = some entry
  others : ∀ other, other ≠ deviceId → next.entryOf other = manager.entryOf other
  shutDown : next.shutDown = manager.shutDown
  dropped : next.dropped = manager.dropped ++ manager.streamsAt deviceId

/-- An entry was given up: a session in it was shut down, and at most the snapshot of its failure is
left. -/
structure Retired (deviceId : DeviceId) (manager next : SenderManager) : Prop
    extends SameThreads manager next where
  entry : next.entryOf deviceId = none ∨ ∃ session snapshot,
    manager.entryOf deviceId = some (.active session) ∧
      next.entryOf deviceId = some (.failed snapshot) ∧ snapshot.receiverId = deviceId
  others : ∀ other, other ≠ deviceId → next.entryOf other = manager.entryOf other
  shutDown : next.shutDown = manager.shutDown ++ manager.streamsAt deviceId
  dropped : next.dropped = manager.dropped

theorem Refreshed.refl (manager : SenderManager) : manager.Refreshed manager :=
  ⟨⟨rfl, rfl, rfl, rfl⟩, fun _ ↦ .same _, rfl, rfl⟩

theorem Refreshed.trans (h : manager.Refreshed next) (h' : next.Refreshed latest) :
    manager.Refreshed latest :=
  ⟨h.toSameThreads.trans h'.toSameThreads, fun deviceId ↦ (h.entry deviceId).trans (h'.entry deviceId),
    h'.shutDown.trans h.shutDown, h'.dropped.trans h.dropped⟩

/-- A call that does not touch the collection at all. -/
theorem Refreshed.of_targets (hthreads : manager.SameThreads next)
    (htargets : next.targets = manager.targets) (hshutDown : next.shutDown = manager.shutDown)
    (hdropped : next.dropped = manager.dropped) : manager.Refreshed next :=
  ⟨hthreads, fun deviceId ↦ by rw [entryOf, entryOf, htargets]; exact .same _, hshutDown, hdropped⟩

/-- Calls that refresh one after the other refresh together. -/
theorem Refreshed.foldl {ι : Type} {call : SenderManager → ι → SenderManager}
    (hcall : ∀ (manager : SenderManager) (i : ι), manager.Refreshed (call manager i)) (is : List ι)
    (manager : SenderManager) : manager.Refreshed (is.foldl call manager) := by
  induction is generalizing manager with
  | nil => exact .refl manager
  | cons i is ih => exact (hcall manager i).trans (ih _)

/-! ### Refreshing calls -/

theorem refreshed_setLastError (lastError : Option String) (manager : SenderManager) :
    manager.Refreshed (manager.setLastError lastError) :=
  .of_targets ⟨rfl, rfl, rfl, rfl⟩ rfl rfl rfl

theorem refreshed_setLocalMirror (localMirror : LocalMirrorSnapshot) (manager : SenderManager) :
    manager.Refreshed (manager.setLocalMirror localMirror) :=
  .of_targets ⟨rfl, rfl, rfl, rfl⟩ rfl rfl rfl

/-- A message to the mirror touches no target. -/
theorem refreshed_controlMirror (env : ManagerEnv) (control : LocalMirrorControl)
    (manager : SenderManager) : manager.Refreshed (manager.controlMirror env control) := by
  unfold controlMirror
  split <;> exact .of_targets ⟨rfl, rfl, rfl, rfl⟩ rfl rfl rfl

/-- Turning the mirror on or off touches no target. -/
theorem refreshed_setLocalMirrorEnabled (env : ManagerEnv) (enabled : Bool)
    (manager : SenderManager) : manager.Refreshed (manager.setLocalMirrorEnabled env enabled) := by
  unfold setLocalMirrorEnabled
  dsimp only
  split
  · exact refreshed_setLocalMirror _ _
  · split <;> exact (refreshed_setLocalMirror _ _).trans (refreshed_controlMirror _ _ _)

theorem refreshed_setLocalMirrorTarget (env : ManagerEnv) (targetId : Option String)
    (manager : SenderManager) : manager.Refreshed (manager.setLocalMirrorTarget env targetId) := by
  unfold setLocalMirrorTarget
  dsimp only
  split
  · refine .trans ?_ (refreshed_controlMirror _ _ _)
    exact .of_targets ⟨rfl, rfl, rfl, rfl⟩ rfl rfl rfl
  · exact .of_targets ⟨rfl, rfl, rfl, rfl⟩ rfl rfl rfl

/-- The capture is started for all the sessions there are, and changes none of them. -/
theorem refreshed_ensureCaptureRunning (env : ManagerEnv) (manager : SenderManager) :
    manager.Refreshed (manager.ensureCaptureRunning env).2 := by
  unfold ensureCaptureRunning
  split
  · exact .refl manager
  split
  · exact .refl manager
  dsimp only
  split <;> exact .of_targets ⟨rfl, rfl, rfl, rfl⟩ rfl rfl rfl

/-- An update that leaves the session the same one refreshes the manager. -/
theorem refreshed_updateActive {update : ManagedTargetSession → ManagedTargetSession}
    (hupdate : ∀ session : ManagedTargetSession, session.SameSession (update session))
    (deviceId : DeviceId)
    (manager : SenderManager) : manager.Refreshed (manager.updateActive deviceId update) := by
  unfold updateActive
  split
  · exact .refl manager
  next session hsession =>
    refine ⟨⟨rfl, rfl, rfl, rfl⟩, fun other ↦ ?_, rfl, rfl⟩
    rcases eq_or_ne other deviceId with rfl | hne
    · rw [entryOf, entryOf, TargetSessionCollection.activeSession_eq_some.1 hsession, withTargets,
        TargetSessionCollection.lookup_insert]
      exact .session (hupdate session)
    · rw [entryOf, entryOf, withTargets, TargetSessionCollection.lookup_insert_ne hne]
      exact .same _

/-- A failed capture is noted down in every open session, and ends none. -/
theorem refreshed_failAllActiveTargets (env : ManagerEnv) (message : String)
    (manager : SenderManager) : manager.Refreshed (manager.failAllActiveTargets env message) :=
  .foldl (fun manager deviceId ↦ refreshed_updateActive
    (ManagedTargetSession.sameSession_setError message .error) deviceId manager) _ manager

/-- `stop_capture_if_idle` drops the capture once nobody listens, and then tells the mirror at most. -/
theorem stopCaptureIfIdle_eq (env : ManagerEnv) (manager : SenderManager) :
    ∃ localMirrorBranch, manager.stopCaptureIfIdle env =
      if manager.targets.hasActiveTargets || manager.targets.hasPendingTargets then manager
      else { manager with capture := none, captureStartedUnixMs := none, localMirrorBranch } := by
  unfold stopCaptureIfIdle
  split
  · exact ⟨manager.localMirrorBranch, rfl⟩
  dsimp only
  split
  · exact ⟨_, rfl⟩
  · exact ⟨manager.localMirrorBranch, rfl⟩

/-- The capture is no part of an entry. -/
theorem refreshed_stopCaptureIfIdle (env : ManagerEnv) (manager : SenderManager) :
    manager.Refreshed (manager.stopCaptureIfIdle env) := by
  obtain ⟨_, heq⟩ := stopCaptureIfIdle_eq env manager
  rw [heq]
  split
  · exact .refl manager
  · exact .of_targets ⟨rfl, rfl, rfl, rfl⟩ rfl rfl rfl

theorem refreshed_refreshSnapshot (env : ManagerEnv) (manager : SenderManager) :
    manager.Refreshed (manager.refreshSnapshot env) :=
  .of_targets ⟨rfl, rfl, rfl, rfl⟩ rfl rfl rfl

/-- The mirror takes its copy of a frame out of the manager's hands. -/
theorem refreshed_pushToMirror (env : ManagerEnv) (frame : FanoutAudioFrame)
    (manager : SenderManager) : manager.Refreshed (manager.pushToMirror env frame) := by
  unfold pushToMirror
  dsimp only
  split <;> exact .of_targets ⟨rfl, rfl, rfl, rfl⟩ rfl rfl rfl

/-! ### Entries that come and go -/

/-- The entry that was put in is found. -/
theorem entryOf_insert (entry : TargetSessionEntry) :
    (manager.insertEntry deviceId entry).entryOf deviceId = some entry :=
  TargetSessionCollection.lookup_insert

/-- To put an entry in replaces what was there, and nothing else. -/
theorem replaced_insertEntry (deviceId : DeviceId) (entry : TargetSessionEntry)
    (manager : SenderManager) : Replaced deviceId entry manager (manager.insertEntry deviceId entry) :=
  ⟨⟨rfl, rfl, rfl, rfl⟩, entryOf_insert entry,
    fun _ hne ↦ TargetSessionCollection.lookup_insert_ne hne, rfl, rfl⟩

/-- An open session holds one connection. -/
theorem streamsAt_of_active {session : ManagedTargetSession}
    (h : manager.targets.activeSession deviceId = some session) :
    manager.streamsAt deviceId = [session.stream] := by
  rw [streamsAt, entryOf, TargetSessionCollection.activeSession_eq_some.1 h]
  rfl

/-- A target without a session holds none. -/
theorem streamsAt_of_not_active (h : manager.targets.activeSession deviceId = none) :
    manager.streamsAt deviceId = [] := by
  rw [streamsAt, entryOf]
  rcases hentry : manager.targets.entries.lookup deviceId with - | pending | session | snapshot
  · rfl
  · rfl
  · simp [TargetSessionCollection.activeSession_eq_some.2 hentry] at h
  · rfl

/-- A removal retires the target: its connection is closed, and the others stay. -/
theorem retired_removeTarget (deviceId : DeviceId) (manager : SenderManager) :
    Retired deviceId manager (manager.removeTarget deviceId) := by
  unfold removeTarget
  dsimp only
  rcases hactive : manager.targets.activeSession deviceId with - | session
  · refine ⟨⟨rfl, rfl, rfl, rfl⟩, Or.inl TargetSessionCollection.lookup_remove,
      fun _ hne ↦ TargetSessionCollection.lookup_remove_ne hne, ?_, rfl⟩
    rw [streamsAt_of_not_active hactive, List.append_nil]
    rfl
  · refine ⟨⟨rfl, rfl, rfl, rfl⟩, Or.inl TargetSessionCollection.lookup_remove,
      fun _ hne ↦ TargetSessionCollection.lookup_remove_ne hne, ?_, rfl⟩
    rw [streamsAt_of_active hactive]
    rfl

/-- `stop_target` is `RemoveTarget`, or nothing. -/
theorem stopTarget_eq (deviceId : DeviceId) (manager : SenderManager) :
    (manager.targets.activeSession deviceId = none ∧ manager.stopTarget deviceId = manager) ∨
      manager.stopTarget deviceId = manager.removeTarget deviceId := by
  unfold stopTarget removeTarget
  split
  next hnone => exact Or.inl ⟨hnone, rfl⟩
  next session hsession => exact Or.inr (by simp only [hsession])

/-! ### Keys -/

/-- Every entry stands under its own key. -/
def Keyed (manager : SenderManager) : Prop :=
  ∀ deviceId entry, manager.entryOf deviceId = some entry → entry.Keyed deviceId

/-- Every entry stays under its own id when sessions are refreshed. -/
theorem Keyed.refreshed (h : manager.Keyed) (h' : manager.Refreshed next) : next.Keyed := by
  intro deviceId entry hentry
  have hrefreshed := h'.entry deviceId
  rw [hentry] at hrefreshed
  rcases hbefore : manager.entryOf deviceId with - | before
  · rw [hbefore] at hrefreshed
    exact nomatch hrefreshed
  · have hkeyed := h deviceId before hbefore
    rw [hbefore] at hrefreshed
    cases hrefreshed with
    | same => exact hkeyed
    | session same => exact ⟨same.target ▸ hkeyed.1, same.receiverId ▸ hkeyed.2⟩

/-- An entry under its own key, and the others as they were. -/
theorem Keyed.of_others (h : manager.Keyed)
    (hentry : ∀ entry, next.entryOf deviceId = some entry → entry.Keyed deviceId)
    (hothers : ∀ other, other ≠ deviceId → next.entryOf other = manager.entryOf other) :
    next.Keyed := by
  intro other entry hother
  rcases eq_or_ne other deviceId with rfl | hne
  · exact hentry entry hother
  · exact h other entry ((hothers other hne).symm.trans hother)

theorem Keyed.retired (h : manager.Keyed) (h' : Retired deviceId manager next) : next.Keyed := by
  refine h.of_others (fun entry hentry ↦ ?_) h'.others
  rcases h'.entry with hnone | ⟨session, snapshot, -, hsome, hid⟩
  · exact nomatch hnone.symm.trans hentry
  · obtain rfl := Option.some.inj (hsome.symm.trans hentry)
    exact hid

/-- An entry for the target it is stored under keeps the collection keyed. -/
theorem Keyed.replaced {entry : TargetSessionEntry} (h : manager.Keyed)
    (h' : Replaced deviceId entry manager next) (hentry : entry.Keyed deviceId) : next.Keyed := by
  refine h.of_others (fun after hafter ↦ ?_) h'.others
  obtain rfl := Option.some.inj (h'.entry.symm.trans hafter)
  exact hentry

/-- A target that fails is retired, and the snapshot of its failure stays in its place. -/
theorem retired_failTarget (env : ManagerEnv) (h : manager.Keyed) {session : ManagedTargetSession}
    (hsession : manager.targets.activeSession deviceId = some session) :
    Retired deviceId manager (manager.failTarget env deviceId) := by
  obtain ⟨-, rfl⟩ := h deviceId _ (TargetSessionCollection.activeSession_eq_some.1 hsession)
  unfold failTarget
  rw [hsession]
  dsimp only
  refine ⟨⟨rfl, rfl, rfl, rfl⟩, Or.inr ⟨session, _,
    TargetSessionCollection.activeSession_eq_some.1 hsession, TargetSessionCollection.lookup_insert,
    rfl⟩, fun other hne ↦ ?_, ?_, ?_⟩
  · exact (TargetSessionCollection.lookup_insert_ne hne).trans
      (TargetSessionCollection.lookup_remove_ne hne)
  · rw [streamsAt_of_active hsession]
    rfl
  · refine Eq.trans (congrArg (manager.dropped ++ ·) ?_) (List.append_nil _)
    change (((manager.targets.remove session.snapshot.receiverId).entries.lookup
      session.snapshot.receiverId).map TargetSessionEntry.streams).getD [] = []
    rw [TargetSessionCollection.lookup_remove]
    rfl

/-! ### Chains -/

/-- Sessions say something else about themselves, and entries are given up. -/
inductive Tended : SenderManager → SenderManager → Prop
  | refl (manager : SenderManager) : Tended manager manager
  | refreshed {manager next latest : SenderManager} (head : manager.Refreshed next)
      (tail : Tended next latest) : Tended manager latest
  | retired {deviceId : DeviceId} {manager next latest : SenderManager}
      (head : Retired deviceId manager next) (tail : Tended next latest) : Tended manager latest

theorem Tended.of_refreshed (h : manager.Refreshed next) : Tended manager next :=
  .refreshed h (.refl next)

theorem Tended.of_retired (h : Retired deviceId manager next) : Tended manager next :=
  .retired h (.refl next)

/-- The rule for chains. -/
theorem Tended.invariant {I : SenderManager → Prop}
    (hrefreshed : ∀ manager next : SenderManager, I manager → manager.Refreshed next → I next)
    (hretired : ∀ (deviceId : DeviceId) (manager next : SenderManager), I manager →
      Retired deviceId manager next → I next)
    (h : Tended manager next) (hmanager : I manager) : I next := by
  induction h with
  | refl => exact hmanager
  | refreshed head _ ih => exact ih (hrefreshed _ _ hmanager head)
  | retired head _ ih => exact ih (hretired _ _ _ hmanager head)

/-- Whatever tends the sessions keeps them under their ids. -/
theorem Tended.keyed (h : Tended manager next) (hmanager : manager.Keyed) : next.Keyed :=
  h.invariant (fun _ _ ↦ Keyed.refreshed) (fun _ _ _ ↦ Keyed.retired) hmanager

theorem Tended.dropped (h : Tended manager next) : next.dropped = manager.dropped :=
  @Tended.invariant _ _ (fun later ↦ later.dropped = manager.dropped)
    (fun _ _ hsame h ↦ h.dropped.trans hsame) (fun _ _ _ hsame h ↦ h.dropped.trans hsame) h rfl

/-- Tending sessions starts no attempt. -/
theorem Tended.sameThreads (h : Tended manager next) : manager.SameThreads next :=
  @Tended.invariant _ _ (fun later ↦ manager.SameThreads later)
    (fun _ _ hsame h ↦ hsame.trans h.toSameThreads) (fun _ _ _ hsame h ↦ hsame.trans h.toSameThreads)
    h ⟨rfl, rfl, rfl, rfl⟩

/-- The targets a walk has collected fail one after the other. -/
theorem tended_foldl_failTarget (env : ManagerEnv) (deviceIds : List DeviceId)
    (h : manager.Keyed) :
    Tended manager (deviceIds.foldl (fun manager deviceId ↦ manager.failTarget env deviceId)
      manager) := by
  induction deviceIds generalizing manager with
  | nil => exact .refl manager
  | cons deviceId deviceIds ih =>
    rcases hactive : manager.targets.activeSession deviceId with - | session
    · rw [List.foldl_cons, failTarget, hactive]
      exact ih h
    · have hretired := retired_failTarget env h hactive
      exact .retired hretired (ih (h.retired hretired))

/-- So do the targets that are stopped in the end. -/
theorem tended_foldl_stopTarget (deviceIds : List DeviceId) (manager : SenderManager) :
    Tended manager (deviceIds.foldl (fun manager deviceId ↦ manager.stopTarget deviceId) manager) := by
  induction deviceIds generalizing manager with
  | nil => exact .refl manager
  | cons deviceId deviceIds ih =>
    rw [List.foldl_cons]
    rcases stopTarget_eq deviceId manager with ⟨-, hsame⟩ | hremoved
    · rw [hsame]
      exact ih manager
    · rw [hremoved]
      exact .retired (retired_removeTarget deviceId manager) (ih _)

/-- A walk over the open sessions tends them: each is refreshed, and those whose step says no fail
afterwards. -/
theorem tended_forEachActive (env : ManagerEnv)
    {act : DeviceId → ManagedTargetSession → Bool × ManagedTargetSession}
    (hact : ∀ (deviceId : DeviceId) (session : ManagedTargetSession),
      session.SameSession (act deviceId session).2) (h : manager.Keyed) :
    Tended manager (manager.forEachActive env act) := by
  have hacted := Refreshed.foldl (fun manager deviceId ↦
    refreshed_updateActive (hact deviceId) deviceId manager)
    (manager.targets.activeIds env.order) manager
  exact .refreshed hacted (tended_foldl_failTarget env _ (h.refreshed hacted))

/-- `tick_targets` is such a walk. -/
theorem tended_tickTargets (env : ManagerEnv) (h : manager.Keyed) :
    Tended manager (manager.tickTargets env) :=
  tended_forEachActive env (fun _ session ↦ ManagedTargetSession.sameSession_tick _ _ session) h

/-- So is `capture_and_fan_out`, behind the message to the mirror. -/
theorem tended_captureAndFanOut (env : ManagerEnv) (h : manager.Keyed) :
    Tended manager (manager.captureAndFanOut env) := by
  unfold captureAndFanOut
  split
  · exact .refl manager
  split
  · exact .refl manager
  next frame hframe =>
    have hpushed := refreshed_pushToMirror env
      { sequence := frame.sequence
        capturedAtMs := Duration.asMillis frame.capturedAt
        capturedAtUnixMs := Word.satAdd 64 (manager.captureStartedUnixMs.getD env.nowUnixMs)
          (Duration.asMillis frame.capturedAt)
        payload := frame.payload } manager
    exact .refreshed hpushed (tended_forEachActive env
      (fun deviceId session ↦ sameSession_fanOut env _ deviceId session) (h.refreshed hpushed))
  · exact .of_refreshed ((refreshed_setLastError _ _).trans (refreshed_failAllActiveTargets _ _ _))
  · exact .of_refreshed ((refreshed_setLastError _ _).trans (refreshed_failAllActiveTargets _ _ _))

/-! ### Targets that are added -/

/-- A new target is ignored while the old entry is busy, and replaces it otherwise. -/
theorem queueTargetConnect_cases (now : Instant) (target : SenderTarget) (manager : SenderManager) :
    (∃ entry, manager.entryOf target.receiverId = some entry ∧ entry.state.isBusy = true ∧
      manager.queueTargetConnect now target = manager) ∨
    ((∀ entry, manager.entryOf target.receiverId = some entry → entry.state.isBusy = false) ∧
      Replaced target.receiverId (.pending (.new now target)) manager
        (manager.queueTargetConnect now target)) := by
  unfold queueTargetConnect TargetSessionCollection.stateFor entryOf
  rcases hentry : manager.targets.entries.lookup target.receiverId with - | entry
  · exact Or.inr ⟨by simp, replaced_insertEntry _ _ manager⟩
  · simp only [Option.map_some, Option.some.injEq]
    cases hstate : entry.state with
    | connecting => exact Or.inl ⟨entry, rfl, by rw [hstate]; rfl, rfl⟩
    | negotiating => exact Or.inl ⟨entry, rfl, by rw [hstate]; rfl, rfl⟩
    | streaming => exact Or.inl ⟨entry, rfl, by rw [hstate]; rfl, rfl⟩
    | idle => exact Or.inr ⟨by rintro _ rfl; rw [hstate]; rfl, replaced_insertEntry _ _ manager⟩
    | stopping => exact Or.inr ⟨by rintro _ rfl; rw [hstate]; rfl, replaced_insertEntry _ _ manager⟩
    | error => exact Or.inr ⟨by rintro _ rfl; rw [hstate]; rfl, replaced_insertEntry _ _ manager⟩

/-! ### Attempts that are started -/

/-- An attempt was started for a pending entry. -/
structure Launched (deviceId : DeviceId) (queued : PendingTargetSession)
    (manager next : SenderManager) : Prop where
  before : manager.entryOf deviceId = some (.pending queued)
  idle : queued.inFlight = false
  entry : next.entryOf deviceId = some (.pending (queued.markInFlight manager.nextAttempt))
  others : ∀ other, other ≠ deviceId → next.entryOf other = manager.entryOf other
  threads : ∃ attempt : ConnectAttempt, attempt.attempt = manager.nextAttempt ∧
    attempt.target = queued.target ∧ next.threads = manager.threads ++ [attempt]
  connectRx : next.connectRx = manager.connectRx
  opened : next.opened = manager.opened
  shutDown : next.shutDown = manager.shutDown
  dropped : next.dropped = manager.dropped

/-- An attempt that is due is launched with the target that has waited for it. -/
theorem launched_of_isDue {now : Instant}
    (h : (manager.entryOf deviceId).any (TargetSessionEntry.isDue now) = true) :
    ∃ queued, Launched deviceId queued manager (manager.launch deviceId) := by
  rcases hentry : manager.entryOf deviceId with - | queued | session | snapshot
  · simp [hentry] at h
  · refine ⟨queued, ?_⟩
    have hidle : queued.inFlight = false := by
      simp only [hentry, Option.any_some, TargetSessionEntry.isDue, Bool.and_eq_true,
        Bool.not_eq_true'] at h
      exact h.1
    rw [launch, TargetSessionCollection.pendingSession_eq_some.2 hentry]
    exact ⟨hentry, hidle, TargetSessionCollection.lookup_insert,
      fun _ hne ↦ TargetSessionCollection.lookup_insert_ne hne, ⟨_, rfl, rfl, rfl⟩, rfl, rfl, rfl,
      rfl⟩
  · simp [hentry, TargetSessionEntry.isDue] at h
  · simp [hentry, TargetSessionEntry.isDue] at h

/-- The rule for `process_pending_targets`: what every start of an attempt for an idle pending entry
keeps, it keeps. -/
theorem processPendingTargets_invariant {I : SenderManager → Prop}
    (hlaunched : ∀ (deviceId : DeviceId) (queued : PendingTargetSession)
      (manager next : SenderManager), I manager → Launched deviceId queued manager next → I next)
    {env : ManagerEnv} (hwalked : manager.WalkedBy env) (hmanager : I manager) :
    I (manager.processPendingTargets env) := by
  have hfold : ∀ (deviceIds : List DeviceId) (manager : SenderManager), deviceIds.Nodup → I manager →
      (∀ deviceId ∈ deviceIds,
        (manager.entryOf deviceId).any (TargetSessionEntry.isDue env.now) = true) →
      I (deviceIds.foldl (fun manager deviceId ↦ manager.launch deviceId) manager) := by
    intro deviceIds
    induction deviceIds with
    | nil => exact fun _ _ h _ ↦ h
    | cons deviceId deviceIds ih =>
      intro manager hnodup hmanager hdue
      obtain ⟨hnotMem, hnodup⟩ := List.nodup_cons.1 hnodup
      obtain ⟨hfirst, hdue⟩ := List.forall_mem_cons.1 hdue
      obtain ⟨queued, hlaunch⟩ := launched_of_isDue hfirst
      refine ih _ hnodup (hlaunched _ _ _ _ hmanager hlaunch) fun other hother ↦ ?_
      rw [hlaunch.others other (fun heq ↦ hnotMem (heq ▸ hother))]
      exact hdue other hother
  refine hfold _ manager ?_ hmanager fun deviceId hmem ↦ (List.mem_filter.1 hmem).2
  exact (hwalked.nodup_iff.2 manager.targets.entries.keys_nodup).filter _

/-! ### Results -/

/-- A pending entry was changed in its place. -/
structure Requeued (deviceId : DeviceId) (queued : PendingTargetSession)
    (manager next : SenderManager) : Prop extends SameThreads manager next where
  before : ∃ before, manager.entryOf deviceId = some (.pending before) ∧
    queued.target = before.target
  entry : next.entryOf deviceId = some (.pending queued)
  others : ∀ other, other ≠ deviceId → next.entryOf other = manager.entryOf other
  shutDown : next.shutDown = manager.shutDown
  dropped : next.dropped = manager.dropped

/-- The target a result is matched by. -/
def receiverIdOf : TargetConnectResult → DeviceId
  | .ok session => session.target.receiverId
  | .error failure => failure.snapshot.receiverId

/-- The result puts off the next attempt. -/
def isRetried : TargetConnectResult → Bool
  | .ok _ => false
  | .error failure => retries failure

/-- The entry any other result puts in place. -/
def entryFor : TargetConnectResult → TargetSessionEntry
  | .ok session => .active session
  | .error failure => .failed failure.snapshot

/-- A result that is tried again brings no connection. -/
theorem streamsOf_of_isRetried {result : TargetConnectResult} (h : isRetried result = true) :
    streamsOf result = [] := by
  cases result with
  | ok session => simp [isRetried] at h
  | error failure => rfl

/-- The connections of an entry are those its result brought. -/
@[simp] theorem streams_entryFor (result : TargetConnectResult) :
    (entryFor result).streams = streamsOf result := by
  cases result <;> rfl

/-- A result that is settled leaves no waiting target behind. -/
theorem entryFor_ne_pending (result : TargetConnectResult) (queued : PendingTargetSession) :
    entryFor result ≠ .pending queued := by
  cases result <;> simp [entryFor]

/-- What the manager makes of a result. -/
inductive ResultEffect (result : TargetConnectResult) (manager next : SenderManager) : Prop
  /-- The target is not wanted any more: a session is shut down. -/
  | unwanted (absent : manager.entryOf (receiverIdOf result) = none)
      (threads : manager.SameThreads next) (targets : next.targets = manager.targets)
      (shutDown : next.shutDown = manager.shutDown ++ streamsOf result)
      (dropped : next.dropped = manager.dropped)
  /-- The failure is tried again, but not by the entry that is there now. -/
  | ignored (retried : isRetried result = true)
      (present : (manager.entryOf (receiverIdOf result)).isSome = true)
      (refreshed : manager.Refreshed next)
  /-- The next attempt is put off. -/
  | requeued (queued : PendingTargetSession) (retried : isRetried result = true)
      (requeued : Requeued (receiverIdOf result) queued manager next)
      (idle : queued.inFlight = false)
      (snapshot : queued.snapshot.receiverId = receiverIdOf result)
  /-- The result takes the place of the entry. -/
  | placed (inserted : SenderManager) (final : isRetried result = false)
      (present : (manager.entryOf (receiverIdOf result)).isSome = true)
      (replaced : Replaced (receiverIdOf result) (entryFor result) manager inserted)
      (refreshed : inserted.Refreshed next)

/-- A session that comes in takes the place of its target's entry, whether or not the capture starts; one
that nobody wants any more is shut down. -/
theorem handleConnected_effect (env : ManagerEnv) (session : ManagedTargetSession)
    (manager : SenderManager) :
    ResultEffect (.ok session) manager (manager.handleConnected env session) := by
  unfold handleConnected
  split
  next hcontains =>
    have hreplaced := replaced_insertEntry session.target.receiverId (.active session) manager
    have hrunning := refreshed_ensureCaptureRunning env
      (manager.insertEntry session.target.receiverId (.active session))
    split
    next after hafter =>
      rw [hafter] at hrunning
      exact .placed _ rfl hcontains hreplaced hrunning
    next error after hafter =>
      -- the capture does not start: every open session says so, the new one too
      rw [hafter] at hrunning
      exact .placed _ rfl hcontains hreplaced
        ((hrunning.trans (refreshed_setLastError _ _)).trans (refreshed_failAllActiveTargets _ _ _))
  next hcontains =>
    have habsent : manager.entryOf session.target.receiverId = none := by
      simpa [TargetSessionCollection.contains, entryOf] using hcontains
    exact .unwanted habsent ⟨rfl, rfl, rfl, rfl⟩ rfl rfl rfl

/-- A failed attempt puts off the next one if it may be repeated, and takes the place of its target's entry
otherwise. -/
theorem handleFailed_effect (env : ManagerEnv) (failure : TargetConnectFailure)
    (manager : SenderManager) :
    ResultEffect (.error failure) manager (manager.handleFailed env failure) := by
  unfold handleFailed
  dsimp only
  split
  next hcontains =>
    split
    next hretries =>
      split
      · exact .ignored hretries hcontains (refreshed_setLastError _ _)
      next queued hqueued =>
        refine .requeued (queued.scheduleRetry env.now env.nowUnixMs failure.snapshot
          (retryBackoff failure.snapshot.attemptCount)) hretries ⟨⟨rfl, rfl, rfl, rfl⟩,
          ⟨queued, TargetSessionCollection.pendingSession_eq_some.1 hqueued, rfl⟩,
          TargetSessionCollection.lookup_insert,
          fun _ hne ↦ TargetSessionCollection.lookup_insert_ne hne, rfl, rfl⟩ rfl rfl
    next hretries =>
      have hreplaced := replaced_insertEntry failure.snapshot.receiverId (.failed failure.snapshot)
        (manager.setLastError failure.snapshot.lastError)
      refine .placed _ (Bool.eq_false_iff.2 hretries) hcontains ?_ (.refl _)
      exact ⟨⟨rfl, rfl, rfl, rfl⟩, hreplaced.entry, hreplaced.others, rfl, hreplaced.dropped⟩
  next hcontains =>
    have habsent : manager.entryOf failure.snapshot.receiverId = none := by
      simpa [TargetSessionCollection.contains, entryOf] using hcontains
    exact .unwanted habsent ⟨rfl, rfl, rfl, rfl⟩ rfl (List.append_nil _).symm rfl

/-- Both at once: what a result does to the manager. -/
theorem processConnectResult_effect (env : ManagerEnv) (result : TargetConnectResult)
    (manager : SenderManager) :
    ResultEffect result manager (manager.processConnectResult env result) := by
  cases result with
  | ok session => exact handleConnected_effect env session manager
  | error failure => exact handleFailed_effect env failure manager

/-- A result is matched by the target of its attempt. -/
theorem receiverIdOf_of_answers {stream : TcpStream} {target : SenderTarget}
    {result : TargetConnectResult} (h : ManagedTargetSession.Answers stream target result) :
    receiverIdOf result = target.receiverId := by
  cases result with
  | ok session => exact congrArg SenderTarget.receiverId h.2.1
  | error failure => exact h.2

/-- An entry that comes of a result stands under the target of the attempt. -/
theorem keyed_entryFor {stream : TcpStream} {target : SenderTarget} {result : TargetConnectResult}
    (h : ManagedTargetSession.Answers stream target result) :
    (entryFor result).Keyed (receiverIdOf result) := by
  cases result with
  | ok session =>
    obtain ⟨-, rfl, hid⟩ := h
    exact ⟨rfl, hid⟩
  | error failure => exact rfl

/-- For other targets, sessions at most say something else about themselves. -/
theorem ResultEffect.others {result : TargetConnectResult} (h : ResultEffect result manager next)
    (hne : other ≠ receiverIdOf result) :
    EntryRefreshed (manager.entryOf other) (next.entryOf other) := by
  cases h with
  | unwanted absent threads targets shutDown dropped =>
    rw [entryOf, entryOf, targets]
    exact .same _
  | ignored retried present refreshed => exact refreshed.entry other
  | requeued queued retried requeued idle snapshot =>
    rw [requeued.others other hne]
    exact .same _
  | placed inserted final present replaced refreshed =>
    rw [← replaced.others other hne]
    exact refreshed.entry other

/-- A result for a target that is not wanted any more changes no entry. -/
theorem ResultEffect.of_absent {result : TargetConnectResult} (h : ResultEffect result manager next)
    (habsent : manager.entryOf (receiverIdOf result) = none) :
    next.targets = manager.targets ∧ next.shutDown = manager.shutDown ++ streamsOf result := by
  cases h with
  | unwanted absent threads targets shutDown dropped => exact ⟨targets, shutDown⟩
  | ignored retried present refreshed => simp [habsent] at present
  | requeued queued retried requeued idle snapshot =>
    obtain ⟨before, hbefore, -⟩ := requeued.before
    simp [habsent] at hbefore
  | placed inserted final present replaced refreshed => simp [habsent] at present

/-- A result starts no attempt by itself; a repeated one waits for its time. -/
theorem ResultEffect.sameThreads {result : TargetConnectResult}
    (h : ResultEffect result manager next) : manager.SameThreads next := by
  cases h with
  | unwanted absent threads targets shutDown dropped => exact threads
  | ignored retried present refreshed => exact refreshed.toSameThreads
  | requeued queued retried requeued idle snapshot => exact requeued.toSameThreads
  | placed inserted final present replaced refreshed =>
    exact replaced.toSameThreads.trans refreshed.toSameThreads

end SenderManager

/-! ### Steps -/

/-- What a step does to the manager, by its input. -/
inductive StepEffect (secsF64 : SecsF64) (format : WireFormat) (system next : SenderSystem) :
    SenderInput → Prop
  /-- Most calls only tend to what is there. -/
  | tended {input : SenderInput} (quiet : input.isQuiet = true) (running : system.phase ≠ .ended)
      (phase : next.phase ≠ .ended) (tended : SenderManager.Tended system.manager next.manager) :
      StepEffect secsF64 format system next input
  | queued (env : ManagerEnv) (target : SenderTarget) (running : system.phase ≠ .ended)
      (phase : next.phase ≠ .ended)
      (manager : next.manager = system.manager.queueTargetConnect env.now target) :
      StepEffect secsF64 format system next (.command env (.addTarget target))
  | launched (env : ManagerEnv) (running : system.phase ≠ .ended) (phase : next.phase ≠ .ended)
      (walked : system.manager.WalkedBy env)
      (manager : next.manager = system.manager.processPendingTargets env) :
      StepEffect secsF64 format system next (.pendingTargets env)
  | result (env : ManagerEnv) (attempt : ConnectAttempt) (result : TargetConnectResult)
      (connectRx : List (ConnectAttempt × TargetConnectResult)) (running : system.phase ≠ .ended)
      (phase : next.phase ≠ .ended)
      (head : system.manager.connectRx = (attempt, result) :: connectRx)
      (manager : next.manager =
        (system.manager.received connectRx).processConnectResult env result) :
      StepEffect secsF64 format system next (.connectResult env)
  | ended (env : ManagerEnv) (running : system.phase ≠ .ended) (phase : next.phase = .ended)
      (walked : system.manager.WalkedBy env)
      (manager : next.manager = system.manager.shutdownAll env) :
      StepEffect secsF64 format system next (.shutdownAll env)
  | sent (attempt : ConnectAttempt) (env : ConnectEnv) (phase : next.phase = system.phase)
      (running : system.phase ≠ .ended) (thread : attempt ∈ system.manager.threads)
      (manager : next.manager = system.manager.sent attempt (attempt.result secsF64 format env)) :
      StepEffect secsF64 format system next (.connected attempt env)
  | unsent (attempt : ConnectAttempt) (env : ConnectEnv) (phase : next.phase = .ended)
      (closed : system.phase = .ended) (thread : attempt ∈ system.manager.threads)
      (manager : next.manager = system.manager.unsent attempt (attempt.result secsF64 format env)) :
      StepEffect secsF64 format system next (.connected attempt env)

/-- A call can be taken in its own phase only, and is then its body. -/
theorem call_eq_some {system next : SenderSystem} {phase after : ManagerPhase} {env : ManagerEnv}
    {body : ManagerEnv → SenderManager → SenderManager}
    (h : system.call phase after env body = some next) :
    system.phase = phase ∧ system.manager.WalkedBy env ∧ next = ⟨after, body env system.manager⟩ := by
  unfold SenderSystem.call at h
  split at h
  next hcall => exact ⟨hcall.1, hcall.2, (Option.some.inj h).symm⟩
  · exact nomatch h

/-- A command that adds no target and does not end the loop. -/
theorem tended_processCommand (env : ManagerEnv) {command : SenderCommand}
    (hcommand : ∀ target, command ≠ .addTarget target) (manager : SenderManager) :
    SenderManager.Tended manager (manager.processCommand env command) := by
  cases command with
  | addTarget target => exact absurd rfl (hcommand target)
  | removeTarget deviceId => exact .of_retired (SenderManager.retired_removeTarget _ manager)
  | setLocalMirrorEnabled enabled =>
    exact .of_refreshed (SenderManager.refreshed_setLocalMirrorEnabled _ _ manager)
  | setLocalMirrorTarget targetId =>
    exact .of_refreshed (SenderManager.refreshed_setLocalMirrorTarget _ _ manager)
  | setLocalDeviceId deviceId => exact .of_refreshed (.of_targets ⟨rfl, rfl, rfl, rfl⟩ rfl rfl rfl)
  | setQualityPreset quality => exact .of_refreshed (.of_targets ⟨rfl, rfl, rfl, rfl⟩ rfl rfl rfl)
  | shutdown => exact .of_refreshed (.of_targets ⟨rfl, rfl, rfl, rfl⟩ rfl rfl rfl)

/-- **What a step does.** -/
theorem step_effect {secsF64 : SecsF64} {format : WireFormat} {system next : SenderSystem}
    {input : SenderInput} (hkeyed : system.manager.Keyed)
    (h : system.step secsF64 format input = some next) :
    StepEffect secsF64 format system next input := by
  cases input with
  | command env command =>
    simp only [SenderSystem.step] at h
    split at h
    next hphase =>
      obtain rfl := Option.some.inj h
      have hrunning : system.phase ≠ .ended := by simp [hphase]
      have htended := @tended_processCommand env command
      cases command with
      | addTarget target => exact .queued env target hrunning (by simp) rfl
      | _ => exact .tended rfl hrunning (by simp) (htended (by simp) system.manager)
    · exact nomatch h
  | noCommand =>
    simp only [SenderSystem.step] at h
    split at h
    next hphase =>
      obtain rfl := Option.some.inj h
      exact .tended rfl (by simp [hphase]) (by simp) (.refl _)
    · exact nomatch h
  | pendingTargets env =>
    obtain ⟨hphase, hwalked, rfl⟩ := call_eq_some h
    exact .launched env (by simp [hphase]) (by simp) hwalked rfl
  | connectResult env =>
    simp only [SenderSystem.step] at h
    split at h
    · exact nomatch h
    next attempt result connectRx hhead =>
      obtain ⟨hphase, hwalked, rfl⟩ := call_eq_some h
      exact .result env attempt result connectRx (by simp [hphase]) (by simp) hhead rfl
  | noConnectResult =>
    simp only [SenderSystem.step] at h
    split at h
    next hphase =>
      obtain rfl := Option.some.inj h
      exact .tended rfl (by simp [hphase.1]) (by simp) (.refl _)
    · exact nomatch h
  | mirrorEvents env =>
    obtain ⟨hphase, -, rfl⟩ := call_eq_some h
    exact .tended rfl (by simp [hphase]) (by simp)
      (.of_refreshed (SenderManager.refreshed_setLocalMirror _ _))
  | tick env =>
    obtain ⟨hphase, -, rfl⟩ := call_eq_some h
    exact .tended rfl (by simp [hphase]) (by simp) (SenderManager.tended_tickTargets env hkeyed)
  | capture env =>
    obtain ⟨hphase, -, rfl⟩ := call_eq_some h
    exact .tended rfl (by simp [hphase]) (by simp) (SenderManager.tended_captureAndFanOut env hkeyed)
  | idle env =>
    obtain ⟨hphase, -, rfl⟩ := call_eq_some h
    exact .tended rfl (by simp [hphase]) (by simp)
      (.of_refreshed (SenderManager.refreshed_stopCaptureIfIdle env _))
  | refresh env =>
    obtain ⟨hphase, -, rfl⟩ := call_eq_some h
    exact .tended rfl (by simp [hphase]) (by simp)
      (.of_refreshed (SenderManager.refreshed_refreshSnapshot env _))
  | shutdownAll env =>
    obtain ⟨hphase, hwalked, rfl⟩ := call_eq_some h
    exact .ended env (by simp [hphase]) rfl hwalked rfl
  | connected attempt env =>
    simp only [SenderSystem.step] at h
    split at h
    next hthread =>
      obtain rfl := Option.some.inj h
      by_cases hphase : system.phase = .ended
      · exact .unsent attempt env hphase hphase hthread (if_pos hphase)
      · exact .sent attempt env rfl hphase hthread (if_neg hphase)
    · exact nomatch h

/-! ### What always holds -/

/-- Every entry stands under its own key, and every result in the channel is the one of its
attempt. -/
structure SenderManager.WellKept (manager : SenderManager) : Prop where
  keyed : manager.Keyed
  answers : ∀ result ∈ manager.connectRx,
    ManagedTargetSession.Answers ⟨result.1.attempt⟩ result.1.target result.2

namespace SenderManager

variable {manager next : SenderManager}

/-- Tending sessions keeps the manager well kept. -/
theorem WellKept.tended (h : manager.WellKept) (h' : Tended manager next) : next.WellKept :=
  ⟨h'.keyed h.keyed, by rw [h'.sameThreads.connectRx]; exact h.answers⟩

/-- So does an entry that replaces another one. -/
theorem WellKept.replaced {deviceId : DeviceId} {entry : TargetSessionEntry} (h : manager.WellKept)
    (h' : Replaced deviceId entry manager next) (hentry : entry.Keyed deviceId) : next.WellKept :=
  ⟨h.keyed.replaced h' hentry, by rw [h'.connectRx]; exact h.answers⟩

/-- So does a target that is added. -/
theorem WellKept.queueTargetConnect (h : manager.WellKept) (now : Instant) (target : SenderTarget) :
    (manager.queueTargetConnect now target).WellKept := by
  rcases queueTargetConnect_cases now target manager with ⟨-, -, -, hsame⟩ | ⟨-, hreplaced⟩
  · rw [hsame]
    exact h
  · exact h.replaced hreplaced ⟨rfl, rfl⟩

/-- So does an attempt that is started: its target waits for the answer from here on. -/
theorem WellKept.launched {deviceId : DeviceId} {queued : PendingTargetSession}
    (h : manager.WellKept) (h' : Launched deviceId queued manager next) : next.WellKept := by
  refine ⟨h.keyed.of_others (fun entry hentry ↦ ?_) h'.others,
    by rw [h'.connectRx]; exact h.answers⟩
  obtain rfl := Option.some.inj (h'.entry.symm.trans hentry)
  exact h.keyed deviceId (.pending queued) h'.before

/-- Taking a result out of the channel touches nothing else. -/
theorem WellKept.received {attempt : ConnectAttempt} {result : TargetConnectResult}
    {connectRx : List (ConnectAttempt × TargetConnectResult)} (h : manager.WellKept)
    (hhead : manager.connectRx = (attempt, result) :: connectRx) :
    (manager.received connectRx).WellKept :=
  ⟨h.keyed, fun result hmem ↦ h.answers result (by rw [hhead]; exact List.mem_cons_of_mem _ hmem)⟩

/-- So does the result of an attempt, which answers for the target it was started for. -/
theorem WellKept.result {attempt : ConnectAttempt} {result : TargetConnectResult}
    (h : manager.WellKept)
    (hanswers : ManagedTargetSession.Answers ⟨attempt.attempt⟩ attempt.target result)
    (heffect : ResultEffect result manager next) : next.WellKept := by
  refine ⟨?_, by rw [heffect.sameThreads.connectRx]; exact h.answers⟩
  cases heffect with
  | unwanted absent threads targets shutDown dropped =>
    intro deviceId entry hentry
    rw [entryOf, targets] at hentry
    exact h.keyed deviceId entry hentry
  | ignored retried present refreshed => exact h.keyed.refreshed refreshed
  | requeued queued retried requeued idle snapshot =>
    refine h.keyed.of_others (fun entry hentry ↦ ?_) requeued.others
    obtain ⟨before, hbefore, htarget⟩ := requeued.before
    obtain rfl := Option.some.inj (requeued.entry.symm.trans hentry)
    exact ⟨htarget ▸ (h.keyed _ _ hbefore).1, snapshot⟩
  | placed inserted final present replaced refreshed =>
    exact (h.keyed.replaced replaced (keyed_entryFor hanswers)).refreshed refreshed

theorem keyed_shutdownAll (env : ManagerEnv) (manager : SenderManager) :
    (manager.shutdownAll env).Keyed :=
  fun _ _ hentry ↦ nomatch hentry

end SenderManager

/-- **Every step keeps the manager well kept**, the last one included, behind which there is no entry at
all. -/
theorem step_wellKept {secsF64 : SecsF64} {format : WireFormat} {system next : SenderSystem}
    {input : SenderInput} (h : system.manager.WellKept)
    (hstep : system.step secsF64 format input = some next) : next.manager.WellKept := by
  cases step_effect h.keyed hstep with
  | tended quiet running phase tended => exact h.tended tended
  | queued env target running phase manager =>
    rw [manager]
    exact h.queueTargetConnect env.now target
  | launched env running phase walked manager =>
    rw [manager]
    exact SenderManager.processPendingTargets_invariant
      (fun _ _ _ _ h hlaunched ↦ h.launched hlaunched) walked h
  | result env attempt result connectRx running phase head manager =>
    rw [manager]
    refine (h.received head).result (h.answers (attempt, result) ?_)
      (SenderManager.processConnectResult_effect env result _)
    rw [head]
    exact List.mem_cons_self
  | ended env running phase walked manager =>
    rw [manager]
    exact ⟨SenderManager.keyed_shutdownAll env _, fun _ hmem ↦ nomatch hmem⟩
  | sent attempt env phase running thread manager =>
    rw [manager]
    refine ⟨h.keyed, fun result hmem ↦ ?_⟩
    rcases List.mem_append.1 hmem with hmem | hmem
    · exact h.answers result hmem
    · obtain rfl := List.mem_singleton.1 hmem
      exact ManagedTargetSession.connect_answers secsF64 format env _ _ _ _
  | unsent attempt env phase closed thread manager =>
    rw [manager]
    exact ⟨h.keyed, h.answers⟩

/-- The manager starts with one target that waits. -/
theorem start_wellKept (secsF64 : SecsF64) (setup : SenderSetup) (now : Instant)
    (target : SenderTarget) : (SenderSystem.start secsF64 setup now target).manager.WellKept := by
  have hnew : (SenderManager.new secsF64 setup).WellKept :=
    ⟨(fun _ _ hentry ↦ nomatch hentry), (fun _ hmem ↦ nomatch hmem)⟩
  exact hnew.queueTargetConnect now target

end SynchroSonic
