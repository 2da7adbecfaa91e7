import SynchroSonic.Transport.SenderSteps

/-!
# What becomes of every session

Every session a connect thread opened is, at any time, held by the collection, on its way to the
manager, shut down, or dropped; after the end of the manager it is shut down or dropped
(`step_ledger`). A session is dropped in five ways, and `KeepsSessions` excludes exactly these:

* `AddTarget` replaces an open session that does not stream any more;
* a second open session, or the snapshot of a failure, replaces an open session;
* the manager ends while a session is still in the channel, or before its connect thread has it.
-/

namespace SynchroSonic

/-- The streams stay with the session. -/
theorem EntryRefreshed.streams_eq {entry later : Option TargetSessionEntry}
    (h : EntryRefreshed entry later) :
    (later.map TargetSessionEntry.streams).getD [] =
      (entry.map TargetSessionEntry.streams).getD [] := by
  cases h with
  | same => rfl
  | session same => exact congrArg (fun stream ↦ [stream]) same.stream

namespace SenderManager

variable {manager next : SenderManager} {deviceId : DeviceId} {stream : TcpStream}

/-- Where a session may be. -/
def Accounted (manager : SenderManager) (stream : TcpStream) : Prop :=
  (∃ deviceId, stream ∈ manager.streamsAt deviceId) ∨ stream ∈ manager.arriving ∨
    stream ∈ manager.shutDown ∨ stream ∈ manager.dropped

/-! ### The streams of an entry -/

theorem streamsAt_of_entryOf (h : next.entryOf deviceId = manager.entryOf deviceId) :
    next.streamsAt deviceId = manager.streamsAt deviceId := by
  rw [streamsAt, streamsAt, h]

/-- A target holds a connection exactly if its session is open. -/
theorem streamsAt_eq_nil :
    manager.streamsAt deviceId = [] ↔ manager.targets.activeSession deviceId = none := by
  refine ⟨fun h ↦ ?_, streamsAt_of_not_active⟩
  rcases hactive : manager.targets.activeSession deviceId with - | session
  · rfl
  · rw [streamsAt_of_active hactive] at h
    exact nomatch h

/-- A session that is refreshed keeps its connection. -/
theorem Refreshed.streamsAt (h : manager.Refreshed next) (deviceId : DeviceId) :
    next.streamsAt deviceId = manager.streamsAt deviceId :=
  (h.entry deviceId).streams_eq

/-- A target that is given up holds none. -/
theorem Retired.streamsAt (h : Retired deviceId manager next) : next.streamsAt deviceId = [] := by
  rw [SenderManager.streamsAt]
  rcases h.entry with hnone | ⟨session, snapshot, -, hfailed, -⟩
  · rw [hnone]
    rfl
  · rw [hfailed]
    rfl

/-- Sessions arrive by the channel only. -/
theorem SameThreads.arriving (h : manager.SameThreads next) : next.arriving = manager.arriving := by
  rw [SenderManager.arriving, SenderManager.arriving, h.connectRx]

/-! ### The ledger -/

/-- Nothing that was shut down, dropped or on its way is forgotten; what the collection held is left to
show. -/
theorem Accounted.mono (h : manager.Accounted stream)
    (hstreams : ∀ deviceId, stream ∈ manager.streamsAt deviceId → next.Accounted stream)
    (harriving : stream ∈ manager.arriving → next.Accounted stream)
    (hshutDown : manager.shutDown ⊆ next.shutDown) (hdropped : manager.dropped ⊆ next.dropped) :
    next.Accounted stream := by
  rcases h with ⟨deviceId, hheld⟩ | h | h | h
  · exact hstreams deviceId hheld
  · exact harriving h
  · exact Or.inr (Or.inr (Or.inl (hshutDown h)))
  · exact Or.inr (Or.inr (Or.inr (hdropped h)))

/-- A session stays where it is when the entries are refreshed. -/
theorem Accounted.refreshed (h : manager.Accounted stream) (h' : manager.Refreshed next) :
    next.Accounted stream := by
  refine h.mono (fun deviceId hheld ↦ Or.inl ⟨deviceId, ?_⟩) (fun h ↦ Or.inr (Or.inl ?_))
    (h'.shutDown ▸ List.Subset.refl _) (h'.dropped ▸ List.Subset.refl _)
  · rwa [h'.streamsAt]
  · rwa [h'.arriving]

/-- One that is given up has been shut down. -/
theorem Accounted.retired (h : manager.Accounted stream) (h' : Retired deviceId manager next) :
    next.Accounted stream := by
  refine h.mono (fun other hheld ↦ ?_) (fun h ↦ Or.inr (Or.inl ?_))
    (by rw [h'.shutDown]; exact List.subset_append_left _ _) (h'.dropped ▸ List.Subset.refl _)
  · rcases eq_or_ne other deviceId with rfl | hne
    · -- the entry that is given up had it: it is shut down
      refine Or.inr (Or.inr (Or.inl ?_))
      rw [h'.shutDown]
      exact List.mem_append_right _ hheld
    · exact Or.inl ⟨other, by rwa [streamsAt_of_entryOf (h'.others other hne)]⟩
  · rwa [h'.arriving]

/-- It is accounted for however the entries are tended. -/
theorem Accounted.tended (h : manager.Accounted stream) (h' : Tended manager next) :
    next.Accounted stream :=
  h'.invariant (fun _ _ ↦ Accounted.refreshed) (fun _ _ _ ↦ Accounted.retired) h

/-- One that is replaced has been dropped. -/
theorem Accounted.replaced {entry : TargetSessionEntry} (h : manager.Accounted stream)
    (h' : Replaced deviceId entry manager next) : next.Accounted stream := by
  refine h.mono (fun other hheld ↦ ?_) (fun h ↦ Or.inr (Or.inl ?_))
    (h'.shutDown ▸ List.Subset.refl _) (by rw [h'.dropped]; exact List.subset_append_left _ _)
  · rcases eq_or_ne other deviceId with rfl | hne
    · -- the entry that is replaced had it: it is dropped
      refine Or.inr (Or.inr (Or.inr ?_))
      rw [h'.dropped]
      exact List.mem_append_right _ hheld
    · exact Or.inl ⟨other, by rwa [streamsAt_of_entryOf (h'.others other hne)]⟩
  · rwa [h'.arriving]

/-- A pending entry has no stream. -/
theorem Accounted.of_pending (h : manager.Accounted stream) {before : PendingTargetSession}
    (hbefore : manager.entryOf deviceId = some (.pending before))
    (hothers : ∀ other, other ≠ deviceId → next.entryOf other = manager.entryOf other)
    (hconnectRx : next.connectRx = manager.connectRx) (hshutDown : next.shutDown = manager.shutDown)
    (hdropped : next.dropped = manager.dropped) : next.Accounted stream := by
  refine h.mono (fun other hheld ↦ ?_) (fun h ↦ Or.inr (Or.inl ?_))
    (hshutDown ▸ List.Subset.refl _) (hdropped ▸ List.Subset.refl _)
  · rcases eq_or_ne other deviceId with rfl | hne
    · rw [streamsAt, hbefore] at hheld
      exact absurd hheld List.not_mem_nil
    · exact Or.inl ⟨other, by rwa [streamsAt_of_entryOf (hothers other hne)]⟩
  · rwa [arriving, hconnectRx]

/-! ### The end of the manager -/

/-- Every target that is walked over holds nothing at the end of the walk. -/
theorem streamsAt_foldl_stopTarget {deviceIds : List DeviceId} {manager : SenderManager}
    (h : ∀ deviceId, manager.streamsAt deviceId ≠ [] → deviceId ∈ deviceIds) (deviceId : DeviceId) :
    (deviceIds.foldl (fun manager deviceId ↦ manager.stopTarget deviceId) manager).streamsAt
      deviceId = [] := by
  induction deviceIds generalizing manager with
  | nil =>
    by_contra hstreams
    exact nomatch h deviceId hstreams
  | cons first deviceIds ih =>
    refine ih fun other hother ↦ ?_
    change (manager.stopTarget first).streamsAt other ≠ [] at hother
    rcases stopTarget_eq first manager with ⟨hnone, hsame⟩ | hremoved
    · rw [hsame] at hother
      rcases List.mem_cons.1 (h other hother) with rfl | hmem
      · exact absurd (streamsAt_of_not_active hnone) hother
      · exact hmem
    · have hretired := retired_removeTarget first manager
      rw [hremoved] at hother
      rcases eq_or_ne other first with rfl | hne
      · exact absurd hretired.streamsAt hother
      · rw [streamsAt_of_entryOf (hretired.others other hne)] at hother
        exact (List.mem_cons.1 (h other hother)).resolve_left hne

/-- Nothing is held where no target holds anything. -/
theorem held_eq_nil (h : ∀ deviceId, manager.streamsAt deviceId = []) : manager.held = [] := by
  refine List.flatMap_eq_nil_iff.2 fun ⟨deviceId, entry⟩ hmem ↦ ?_
  have hentry : manager.entryOf deviceId = some entry := AList.mem_lookup_iff.2 hmem
  have hstreams := h deviceId
  rwa [streamsAt, hentry] at hstreams

/-- `shutdown_all` before it lets go of the collection and the channel. -/
theorem shutdownAll_stopped {env : ManagerEnv} (hwalked : manager.WalkedBy env) :
    ∃ stopped : SenderManager, Tended manager stopped ∧
      (∀ deviceId, stopped.streamsAt deviceId = []) ∧
      (manager.shutdownAll env).opened = manager.opened ∧
      (manager.shutdownAll env).shutDown = stopped.shutDown ∧
      (manager.shutdownAll env).dropped = manager.dropped ++ manager.arriving := by
  have hcapture : manager.Refreshed { manager with capture := none } :=
    .of_targets ⟨rfl, rfl, rfl, rfl⟩ rfl rfl rfl
  have htended := Tended.refreshed hcapture
    (tended_foldl_stopTarget (manager.targets.activeIds env.order) _)
  have hstreams := @streamsAt_foldl_stopTarget (manager.targets.activeIds env.order)
    { manager with capture := none } ?_
  · refine ⟨_, htended, hstreams, htended.sameThreads.opened, rfl, ?_⟩
    have hdropped : (manager.shutdownAll env).dropped = _ ++ _ ++ _ := rfl
    rw [hdropped, held_eq_nil hstreams, List.append_nil, htended.dropped,
      htended.sameThreads.arriving]
  · intro deviceId hheld
    have hactive : (manager.targets.activeSession deviceId).isSome := by
      rw [Option.isSome_iff_ne_none]
      exact fun hnone ↦ hheld (streamsAt_eq_nil.2 hnone)
    refine List.mem_filter.2 ⟨hwalked.mem_iff.2 ?_, hactive⟩
    -- the walk comes past every key
    obtain ⟨session, hsession⟩ := Option.isSome_iff_exists.1 hactive
    refine AList.mem_keys.1 (AList.lookup_isSome.1 ?_)
    rw [TargetSessionCollection.activeSession_eq_some.1 hsession]
    rfl

end SenderManager

/-! ### The ledger -/

/-- Every session that was opened is accounted for, and nothing is left behind at the end. -/
structure SenderSystem.Ledger (system : SenderSystem) : Prop
    extends SenderManager.WellKept system.manager where
  accounted : ∀ stream ∈ system.manager.opened, system.manager.Accounted stream
  ended : system.phase = .ended → system.manager.targets = {} ∧ system.manager.connectRx = []

namespace SenderManager

variable {manager next : SenderManager} {stream : TcpStream}

/-- A result that is taken out of the channel leaves its session in the hands of the manager. -/
theorem Accounted.received {attempt : ConnectAttempt} {result : TargetConnectResult}
    {connectRx : List (ConnectAttempt × TargetConnectResult)} (h : manager.Accounted stream)
    (hhead : manager.connectRx = (attempt, result) :: connectRx) :
    (manager.received connectRx).Accounted stream ∨ stream ∈ streamsOf result := by
  rcases h with hheld | harriving | hclosed
  · exact Or.inl (Or.inl hheld)
  · rw [arriving, hhead, List.flatMap_cons] at harriving
    rcases List.mem_append.1 harriving with hown | hlater
    · exact Or.inr hown
    · exact Or.inl (Or.inr (Or.inl hlater))
  · exact Or.inl (Or.inr (Or.inr hclosed))

/-- A result puts its session in place, or shuts it down. -/
theorem Accounted.result {result : TargetConnectResult} (h : manager.Accounted stream)
    (heffect : ResultEffect result manager next) : next.Accounted stream := by
  cases heffect with
  | unwanted absent threads targets shutDown dropped =>
    refine h.mono (fun deviceId hheld ↦ Or.inl ⟨deviceId, ?_⟩) (fun h ↦ Or.inr (Or.inl ?_))
      (shutDown ▸ List.subset_append_left _ _) (dropped ▸ List.Subset.refl _)
    · rwa [streamsAt, entryOf, targets]
    · rwa [threads.arriving]
  | ignored retried present refreshed => exact h.refreshed refreshed
  | requeued queued retried requeued idle snapshot =>
    obtain ⟨before, hbefore, -⟩ := requeued.before
    exact h.of_pending hbefore requeued.others requeued.connectRx requeued.shutDown requeued.dropped
  | placed inserted final present replaced refreshed => exact (h.replaced replaced).refreshed refreshed

/-- To add a target may drop the session of its entry, and loses no other. -/
theorem accounted_queueTargetConnect (now : Instant) (target : SenderTarget)
    (h : ∀ stream ∈ manager.opened, manager.Accounted stream) :
    ∀ stream ∈ (manager.queueTargetConnect now target).opened,
      (manager.queueTargetConnect now target).Accounted stream := by
  intro stream hopened
  rcases queueTargetConnect_cases now target manager with ⟨-, -, -, hsame⟩ | ⟨-, hreplaced⟩
  · rw [hsame] at hopened ⊢
    exact h stream hopened
  · rw [hreplaced.opened] at hopened
    exact (h stream hopened).replaced hreplaced

/-- The session of a result becomes the entry of its target, or it is shut down. -/
theorem accounted_of_result {result : TargetConnectResult} (hstream : stream ∈ streamsOf result)
    (heffect : ResultEffect result manager next) : next.Accounted stream := by
  cases heffect with
  | unwanted absent threads targets shutDown dropped =>
    refine Or.inr (Or.inr (Or.inl ?_))
    rw [shutDown]
    exact List.mem_append_right _ hstream
  | ignored retried present refreshed => simp [streamsOf_of_isRetried retried] at hstream
  | requeued queued retried requeued idle snapshot =>
    simp [streamsOf_of_isRetried retried] at hstream
  | placed inserted final present replaced refreshed =>
    refine Or.inl ⟨receiverIdOf result, ?_⟩
    rw [refreshed.streamsAt, streamsAt, replaced.entry, Option.map_some, Option.getD_some,
      streams_entryFor]
    exact hstream

/-- The end of the manager shuts everything down that it holds. -/
theorem Accounted.shutdownAll (h : manager.Accounted stream) {env : ManagerEnv}
    (hwalked : manager.WalkedBy env) : (manager.shutdownAll env).Accounted stream := by
  obtain ⟨stopped, htended, hstreams, -, hshutDown, hdropped⟩ := shutdownAll_stopped hwalked
  refine (h.tended htended).mono (fun deviceId hheld ↦ ?_) (fun harriving ↦ ?_)
    (hshutDown ▸ List.Subset.refl _) ?_
  · rw [hstreams deviceId] at hheld
    exact nomatch hheld
  · refine Or.inr (Or.inr (Or.inr ?_))
    rw [hdropped]
    rw [htended.sameThreads.arriving] at harriving
    exact List.mem_append_right _ harriving
  · rw [hdropped, htended.dropped]
    exact List.subset_append_left _ _

/-- A session that a connect thread opened goes into the channel. -/
theorem accounted_sent (attempt : ConnectAttempt) (result : TargetConnectResult)
    (h : ∀ stream ∈ manager.opened, manager.Accounted stream) :
    ∀ stream ∈ (manager.sent attempt result).opened, (manager.sent attempt result).Accounted stream := by
  intro stream hopened
  have harriving : (manager.sent attempt result).arriving = manager.arriving ++ streamsOf result := by
    rw [arriving, sent, List.flatMap_append, List.flatMap_singleton]
    rfl
  rcases List.mem_append.1 hopened with hbefore | hown
  · refine (h stream hbefore).mono (fun deviceId hheld ↦ Or.inl ⟨deviceId, hheld⟩)
      (fun hmem ↦ Or.inr (Or.inl ?_)) (List.Subset.refl _) (List.Subset.refl _)
    rw [harriving]
    exact List.mem_append_left _ hmem
  · refine Or.inr (Or.inl ?_)
    rw [harriving]
    exact List.mem_append_right _ hown

/-- A session that nobody receives is dropped. -/
theorem accounted_unsent (attempt : ConnectAttempt) (result : TargetConnectResult)
    (h : ∀ stream ∈ manager.opened, manager.Accounted stream) :
    ∀ stream ∈ (manager.unsent attempt result).opened,
      (manager.unsent attempt result).Accounted stream := by
  intro stream hopened
  rcases List.mem_append.1 hopened with hbefore | hown
  · exact (h stream hbefore).mono (fun deviceId hheld ↦ Or.inl ⟨deviceId, hheld⟩)
      (fun hmem ↦ Or.inr (Or.inl hmem)) (List.Subset.refl _) (List.subset_append_left _ _)
  · exact Or.inr (Or.inr (Or.inr (List.mem_append_right _ hown)))

end SenderManager

variable {secsF64 : SecsF64} {format : WireFormat} {system next : SenderSystem}
  {input : SenderInput}

/-- **The ledger is kept.** -/
theorem step_ledger (h : system.Ledger) (hstep : system.step secsF64 format input = some next) :
    next.Ledger := by
  have hwellKept := step_wellKept h.toWellKept hstep
  cases step_effect h.keyed hstep with
  | tended quiet running phase tended =>
    refine ⟨hwellKept, fun stream hopened ↦ ?_, fun hended ↦ absurd hended phase⟩
    rw [tended.sameThreads.opened] at hopened
    exact (h.accounted stream hopened).tended tended
  | queued env target running phase manager =>
    refine ⟨hwellKept, ?_, fun hended ↦ absurd hended phase⟩
    rw [manager]
    exact SenderManager.accounted_queueTargetConnect env.now target h.accounted
  | launched env running phase walked manager =>
    refine ⟨hwellKept, fun stream hopened ↦ ?_, fun hended ↦ absurd hended phase⟩
    rw [manager] at hopened ⊢
    exact @SenderManager.processPendingTargets_invariant _
      (fun manager ↦ stream ∈ manager.opened → manager.Accounted stream)
      (fun _ _ _ _ h hlaunched hopened ↦ (h (hlaunched.opened ▸ hopened)).of_pending
        hlaunched.before hlaunched.others hlaunched.connectRx hlaunched.shutDown hlaunched.dropped)
      env walked (h.accounted stream) hopened
  | result env attempt result connectRx running phase head manager =>
    refine ⟨hwellKept, fun stream hopened ↦ ?_, fun hended ↦ absurd hended phase⟩
    have heffect := SenderManager.processConnectResult_effect env result
      (system.manager.received connectRx)
    rw [manager] at hopened ⊢
    rw [heffect.sameThreads.opened] at hopened
    -- the stream is the one the result carries, or the result concerns another
    rcases (h.accounted stream hopened).received head with hreceived | hown
    · exact hreceived.result heffect
    · exact SenderManager.accounted_of_result hown heffect
  | ended env running phase walked manager =>
    refine ⟨hwellKept, fun stream hopened ↦ ?_, fun _ ↦ by rw [manager]; exact ⟨rfl, rfl⟩⟩
    obtain ⟨-, -, -, hsame, -, -⟩ := SenderManager.shutdownAll_stopped walked
    rw [manager] at hopened ⊢
    rw [hsame] at hopened
    exact (h.accounted stream hopened).shutdownAll walked
  | sent attempt env phase running thread manager =>
    refine ⟨hwellKept, ?_, fun hended ↦ absurd (phase.symm.trans hended) running⟩
    rw [manager]
    exact SenderManager.accounted_sent attempt _ h.accounted
  | unsent attempt env phase closed thread manager =>
    refine ⟨hwellKept, ?_, fun _ ↦ by rw [manager]; exact h.ended closed⟩
    rw [manager]
    exact SenderManager.accounted_unsent attempt _ h.accounted

/-- No session has been opened yet. -/
theorem start_ledger (secsF64 : SecsF64) (setup : SenderSetup) (now : Instant)
    (target : SenderTarget) : (SenderSystem.start secsF64 setup now target).Ledger :=
  ⟨start_wellKept secsF64 setup now target,
    SenderManager.accounted_queueTargetConnect now target (fun _ hopened ↦ nomatch hopened),
    (fun hended ↦ nomatch hended)⟩

/-! ### What is dropped -/

namespace SenderManager

variable {manager next : SenderManager} {deviceId : DeviceId}

/-- No open session stands where the result goes. -/
def HasRoomFor (manager : SenderManager) : TargetConnectResult → Prop
  | .ok session => manager.targets.activeSession session.target.receiverId = none
  | .error failure => retries failure = true ∨
      manager.targets.activeSession failure.snapshot.receiverId = none

/-- A replacement drops nothing exactly if there was no session. -/
theorem Replaced.dropped_eq_nil {entry : TargetSessionEntry}
    (h : Replaced deviceId entry manager next) :
    next.dropped = [] ↔ manager.dropped = [] ∧ manager.targets.activeSession deviceId = none := by
  rw [h.dropped, List.append_eq_nil_iff, streamsAt_eq_nil]

/-- An open session is replaced by a new target unless it is busy. -/
theorem dropped_queueTargetConnect (now : Instant) (target : SenderTarget) (manager : SenderManager) :
    (manager.queueTargetConnect now target).dropped = [] ↔ manager.dropped = [] ∧
      ∀ session, manager.targets.activeSession target.receiverId = some session →
        session.snapshot.state.isBusy = true := by
  rcases queueTargetConnect_cases now target manager with
    ⟨entry, hentry, hbusy, hsame⟩ | ⟨hidle, hreplaced⟩
  · rw [hsame]
    refine (and_iff_left fun session hsession ↦ ?_).symm
    have hactive := TargetSessionCollection.activeSession_eq_some.1 hsession
    obtain rfl := Option.some.inj (hentry.symm.trans hactive)
    exact hbusy
  · rw [hreplaced.dropped_eq_nil]
    refine and_congr_right fun _ ↦ ⟨fun hnone session hsession ↦ ?_, fun h ↦ ?_⟩
    · exact nomatch hnone.symm.trans hsession
    · rcases hactive : manager.targets.activeSession target.receiverId with - | session
      · rfl
      · have hbusy := h session hactive
        have hnotBusy := hidle _ (TargetSessionCollection.activeSession_eq_some.1 hactive)
        exact nomatch hnotBusy.symm.trans hbusy

/-- Without an entry there is no session. -/
theorem activeSession_of_entryOf_none (h : manager.entryOf deviceId = none) :
    manager.targets.activeSession deviceId = none := by
  rcases hactive : manager.targets.activeSession deviceId with - | session
  · rfl
  · exact nomatch h.symm.trans (TargetSessionCollection.activeSession_eq_some.1 hactive)

/-- The two ways to say that a result finds room. -/
theorem hasRoomFor_iff {result : TargetConnectResult} :
    manager.HasRoomFor result ↔ isRetried result = true ∨
      manager.targets.activeSession (receiverIdOf result) = none := by
  cases result with
  | ok session => simp [HasRoomFor, isRetried, receiverIdOf]
  | error failure => exact Iff.rfl

/-- A result drops nothing exactly if it finds room. -/
theorem ResultEffect.dropped_eq_nil {result : TargetConnectResult}
    (h : ResultEffect result manager next) :
    next.dropped = [] ↔ manager.dropped = [] ∧ manager.HasRoomFor result := by
  rw [hasRoomFor_iff]
  cases h with
  | unwanted absent threads targets shutDown dropped =>
    rw [dropped]
    exact (and_iff_left (Or.inr (activeSession_of_entryOf_none absent))).symm
  | ignored retried present refreshed =>
    rw [refreshed.dropped]
    exact (and_iff_left (Or.inl retried)).symm
  | requeued queued retried requeued idle snapshot =>
    rw [requeued.dropped]
    exact (and_iff_left (Or.inl retried)).symm
  | placed inserted final present replaced refreshed =>
    rw [refreshed.dropped, replaced.dropped_eq_nil, final]
    simp only [Bool.false_eq_true, false_or]

end SenderManager

/-- The step drops no session. -/
def KeepsSessions (secsF64 : SecsF64) (format : WireFormat) (system : SenderSystem) :
    SenderInput → Prop
  | .command _ (.addTarget target) => ∀ session,
      system.manager.targets.activeSession target.receiverId = some session →
        session.snapshot.state.isBusy = true
  | .connectResult _ => ∀ attempt result connectRx,
      system.manager.connectRx = (attempt, result) :: connectRx → system.manager.HasRoomFor result
  | .shutdownAll _ => system.manager.arriving = []
  | .connected attempt env => system.phase = .ended →
      SenderManager.streamsOf (attempt.result secsF64 format env) = []
  | _ => True

/-- A step that puts no entry in place drops none. -/
theorem KeepsSessions.of_isQuiet (h : input.isQuiet = true) :
    KeepsSessions secsF64 format system input := by
  cases input with
  | command env command =>
    cases command with
    | addTarget target => exact nomatch h
    | _ => trivial
  | pendingTargets env => trivial
  | connectResult env => exact nomatch h
  | shutdownAll env => exact nomatch h
  | connected attempt env => exact nomatch h
  | _ => trivial

/-- **What a step drops.** -/
theorem step_dropped_eq_nil (h : system.Ledger)
    (hstep : system.step secsF64 format input = some next) :
    next.manager.dropped = [] ↔
      system.manager.dropped = [] ∧ KeepsSessions secsF64 format system input := by
  cases step_effect h.keyed hstep with
  | tended quiet running phase tended =>
    rw [tended.dropped]
    exact (and_iff_left (.of_isQuiet quiet)).symm
  | queued env target running phase manager =>
    rw [manager]
    exact SenderManager.dropped_queueTargetConnect env.now target _
  | launched env running phase walked manager =>
    have hdropped : next.manager.dropped = system.manager.dropped := by
      rw [manager]
      exact @SenderManager.processPendingTargets_invariant _
        (fun manager ↦ manager.dropped = system.manager.dropped)
        (fun _ _ _ _ hsame hlaunched ↦ hlaunched.dropped.trans hsame) env walked rfl
    rw [hdropped]
    exact (and_iff_left trivial).symm
  | result env attempt result connectRx running phase head manager =>
    have heffect := SenderManager.processConnectResult_effect env result
      (system.manager.received connectRx)
    rw [manager, heffect.dropped_eq_nil]
    refine and_congr_right fun _ ↦ ⟨?_, fun hkeeps ↦ hkeeps attempt result connectRx head⟩
    intro hroom attempt' result' connectRx' hhead
    obtain ⟨⟨-, rfl⟩, -⟩ := by simpa using head.symm.trans hhead
    exact hroom
  | ended env running phase walked manager =>
    obtain ⟨-, -, -, -, -, hdropped⟩ := SenderManager.shutdownAll_stopped walked
    rw [manager, hdropped]
    exact List.append_eq_nil_iff
  | sent attempt env phase running thread manager =>
    rw [manager]
    exact (and_iff_left fun hended ↦ absurd hended running).symm
  | unsent attempt env phase closed thread manager =>
    rw [manager]
    refine List.append_eq_nil_iff.trans (and_congr_right fun _ ↦ ?_)
    exact ⟨fun hnil _ ↦ hnil, fun hkeeps ↦ hkeeps closed⟩

/-! ### Runs -/

/-- No session was dropped, and those that were opened are shut down when the manager has ended. -/
def SenderSystem.NoneLost (system : SenderSystem) : Prop :=
  system.manager.dropped = [] ∧
    (system.phase = .ended → ∀ stream ∈ system.manager.opened, stream ∈ system.manager.shutDown)

/-- By the ledger, none is lost if none is dropped. -/
theorem SenderSystem.Ledger.noneLost_iff (h : system.Ledger) :
    system.NoneLost ↔ system.manager.dropped = [] := by
  refine ⟨And.left, fun hdropped ↦ ⟨hdropped, fun hended stream hopened ↦ ?_⟩⟩
  obtain ⟨htargets, hconnectRx⟩ := h.ended hended
  rcases h.accounted stream hopened with ⟨deviceId, hheld⟩ | harriving | hshutDown | hlost
  · rw [SenderManager.streamsAt, SenderManager.entryOf, htargets] at hheld
    exact absurd hheld List.not_mem_nil
  · rw [SenderManager.arriving, hconnectRx] at harriving
    exact absurd harriving List.not_mem_nil
  · exact hshutDown
  · rw [hdropped] at hlost
    exact absurd hlost List.not_mem_nil

/-- **When no session is lost.** In any run, no session that a connect thread opened is dropped, and all
of them are shut down by the end of the manager, exactly if every step of the run keeps the sessions. -/
theorem none_lost_iff (secsF64 : SecsF64) (format : WireFormat) (setup : SenderSetup)
    (now : Instant) (target : SenderTarget) (inputs : List SenderInput) (system : SenderSystem)
    (hrun : Transition.run (SenderSystem.step secsF64 format)
      (SenderSystem.start secsF64 setup now target) inputs = some system) :
    system.NoneLost ↔ Transition.Along (SenderSystem.step secsF64 format)
      (KeepsSessions secsF64 format) (SenderSystem.start secsF64 setup now target) inputs := by
  have hstart := start_ledger secsF64 setup now target
  have hledger : system.Ledger :=
    Transition.run_invariant (fun _ _ _ h hstep ↦ step_ledger h hstep) hstart hrun
  have hdropped : (SenderSystem.start secsF64 setup now target).manager.dropped = [] := by
    have hqueued := SenderManager.dropped_queueTargetConnect now target
      (SenderManager.new secsF64 setup)
    exact hqueued.2 ⟨rfl, fun session hsession ↦ nomatch hsession⟩
  rw [hledger.noneLost_iff]
  have hclean := @Transition.run_iff_along _ _ _ (KeepsSessions secsF64 format) SenderSystem.Ledger
    (fun system ↦ system.manager.dropped = []) (fun _ _ _ h hstep ↦ step_ledger h hstep)
    (fun _ _ _ h hstep ↦ step_dropped_eq_nil h hstep) _ _ _ hstart hrun
  exact hclean.trans (and_iff_right hdropped)

/-! ### A session that is kept and one that is lost -/

def endedManager : List SenderInput :=
  [.command Sample.managerEnv .shutdown, .shutdownAll Sample.managerEnv]

/-- An open session is shut down at the end, and every step has kept it. -/
theorem none_lost_iff_shutdown :
    ∃ system : SenderSystem,
      Transition.run (SenderSystem.step Sample.secsF64 Sample.senderFormat)
          (SenderSystem.start Sample.secsF64 Sample.senderSetup 0 (Sample.senderTarget 1))
          (openedTarget Sample.managerEnv ++ endedManager) = some system ∧
        system.manager.opened = [⟨0⟩] ∧ system.manager.shutDown = [⟨0⟩] ∧
        Transition.Along (SenderSystem.step Sample.secsF64 Sample.senderFormat)
          (KeepsSessions Sample.secsF64 Sample.senderFormat)
          (SenderSystem.start Sample.secsF64 Sample.senderSetup 0 (Sample.senderTarget 1))
          (openedTarget Sample.managerEnv ++ endedManager) := by
  have hrun : (Transition.run (SenderSystem.step Sample.secsF64 Sample.senderFormat)
      (SenderSystem.start Sample.secsF64 Sample.senderSetup 0 (Sample.senderTarget 1))
      (openedTarget Sample.managerEnv ++ endedManager)).map (fun system ↦
        (system.manager.opened, system.manager.shutDown, system.manager.dropped)) =
      some ([⟨0⟩], [⟨0⟩], []) := by decide +kernel
  obtain ⟨system, hrun, hsystem⟩ := Option.map_eq_some_iff.1 hrun
  simp only [Prod.mk.injEq] at hsystem
  obtain ⟨hopened, hshutDown, hdropped⟩ := hsystem
  refine ⟨system, hrun, hopened, hshutDown, (none_lost_iff _ _ _ _ _ _ _ hrun).1 ⟨hdropped, ?_⟩⟩
  rintro - stream hmem
  rwa [hshutDown, ← hopened]

/-- **A session is lost.** The capture ends, which leaves the open session in the state `Error`; the
target is added again before the next tick, and the new entry replaces the session. At the end of the
manager it has not been shut down. -/
theorem session_lost_to_readded_target :
    ∃ system : SenderSystem,
      Transition.run (SenderSystem.step Sample.secsF64 Sample.senderFormat)
          (SenderSystem.start Sample.secsF64 Sample.senderSetup 0 (Sample.senderTarget 1))
          (openedTarget { Sample.managerEnv with tryRecvFrame := fun _ ↦ .error .captureEnded } ++
            .command Sample.managerEnv (.addTarget (Sample.senderTarget 1)) :: endedManager) =
          some system ∧
        system.phase = .ended ∧ system.manager.opened = [⟨0⟩] ∧ system.manager.shutDown = [] ∧
        system.manager.dropped = [⟨0⟩] := by
  have hrun : (Transition.run (SenderSystem.step Sample.secsF64 Sample.senderFormat)
      (SenderSystem.start Sample.secsF64 Sample.senderSetup 0 (Sample.senderTarget 1))
      (openedTarget { Sample.managerEnv with tryRecvFrame := fun _ ↦ .error .captureEnded } ++
        .command Sample.managerEnv (.addTarget (Sample.senderTarget 1)) :: endedManager)).map
      (fun system ↦ (system.phase, system.manager.opened, system.manager.shutDown,
        system.manager.dropped)) =
      some (.ended, [⟨0⟩], [], [⟨0⟩]) := by decide +kernel
  obtain ⟨system, hrun, hsystem⟩ := Option.map_eq_some_iff.1 hrun
  simp only [Prod.mk.injEq] at hsystem
  exact ⟨system, hrun, hsystem⟩

end SynchroSonic
