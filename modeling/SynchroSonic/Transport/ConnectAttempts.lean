import SynchroSonic.Transport.SenderSteps

/-!
# Connection attempts and the entries they are for

A result is matched with an entry by the identifier of its target alone. `OneAttempt` is the state of
affairs in which that is enough: no two outstanding attempts are for one target, and an outstanding
attempt is the one its entry has in flight, if there is an entry.

Every step keeps it but one. If a target was removed while an attempt for it was outstanding and is
added again before the manager has taken the result, then the new entry is met by the result of the old
attempt. `ReaddsSettled` excludes that, and `connect_results_attributed` says what follows.
-/

namespace SynchroSonic

/-- The receiver an attempt is for. -/
def ConnectAttempt.receiverId (attempt : ConnectAttempt) : DeviceId := attempt.target.receiverId

namespace SenderManager

/-- The attempts whose results the manager has not taken yet. -/
def outstanding (manager : SenderManager) : List ConnectAttempt :=
  manager.threads ++ manager.connectRx.map Prod.fst

/-- The attempt is the one its entry has in flight. -/
def HasInFlight (manager : SenderManager) (attempt : ConnectAttempt) : Prop :=
  ∃ queued, manager.entryOf attempt.receiverId = some (.pending queued) ∧ queued.inFlight = true ∧
    queued.launched = some attempt.attempt

/-- The attempt is in flight for its entry, or its target was removed. -/
def Attributed (manager : SenderManager) (attempt : ConnectAttempt) : Prop :=
  manager.entryOf attempt.receiverId = none ∨ manager.HasInFlight attempt

/-- **One attempt per target.** -/
structure OneAttempt (manager : SenderManager) : Prop extends WellKept manager where
  distinct : (manager.outstanding.map ConnectAttempt.receiverId).Nodup
  attributed : ∀ attempt ∈ manager.outstanding, manager.Attributed attempt
  connecting : ∀ deviceId queued, manager.entryOf deviceId = some (.pending queued) →
    queued.inFlight = true → queued.snapshot.state = .connecting

variable {manager next : SenderManager} {deviceId : DeviceId} {attempt : ConnectAttempt}

/-! ### Entries and the attempts for them -/

/-- It depends on the entry of its target. -/
theorem Attributed.of_entryOf (h : manager.Attributed attempt)
    (hentry : next.entryOf attempt.receiverId = manager.entryOf attempt.receiverId) :
    next.Attributed attempt := by
  unfold Attributed HasInFlight
  rwa [hentry]

/-- There is no attempt for an entry that has none in flight. -/
theorem OneAttempt.not_outstanding (h : manager.OneAttempt) {entry : TargetSessionEntry}
    (hentry : manager.entryOf deviceId = some entry)
    (hidle : ∀ queued, entry = .pending queued → queued.inFlight = false) :
    ∀ attempt ∈ manager.outstanding, attempt.receiverId ≠ deviceId := by
  rintro attempt hmem rfl
  rcases h.attributed attempt hmem with hnone | ⟨queued, hqueued, hinFlight, -⟩
  · exact nomatch hnone.symm.trans hentry
  · obtain rfl := Option.some.inj (hqueued.symm.trans hentry)
    simp [hidle queued rfl] at hinFlight

/-- Fewer attempts are outstanding, and each of them is attributed as before. -/
theorem OneAttempt.of_outstanding (h : manager.OneAttempt) (hwellKept : next.WellKept)
    (houtstanding : next.outstanding.Subperm manager.outstanding)
    (hattributed : ∀ attempt ∈ next.outstanding, manager.Attributed attempt →
      next.Attributed attempt)
    (hconnecting : ∀ deviceId queued, next.entryOf deviceId = some (.pending queued) →
      queued.inFlight = true → queued.snapshot.state = .connecting) : next.OneAttempt := by
  refine ⟨hwellKept, ?_, fun attempt hmem ↦
    hattributed attempt hmem (h.attributed attempt (houtstanding.subset hmem)), hconnecting⟩
  obtain ⟨part, hperm, hsublist⟩ := houtstanding
  exact ((hperm.map _).nodup_iff).1 (h.distinct.sublist (hsublist.map _))

/-- Work on the entries starts no attempt and answers none. -/
theorem SameThreads.outstanding (h : manager.SameThreads next) :
    next.outstanding = manager.outstanding := by
  rw [SenderManager.outstanding, SenderManager.outstanding, h.threads, h.connectRx]

/-- One entry changes; what is in flight for it afterwards is left to show. -/
theorem OneAttempt.of_others (h : manager.OneAttempt) (hwellKept : next.WellKept)
    (hthreads : manager.SameThreads next)
    (hattributed : ∀ attempt ∈ manager.outstanding, attempt.receiverId = deviceId →
      next.Attributed attempt)
    (hidle : ∀ queued, next.entryOf deviceId = some (.pending queued) → queued.inFlight = false)
    (hothers : ∀ other, other ≠ deviceId → next.entryOf other = manager.entryOf other) :
    next.OneAttempt := by
  refine h.of_outstanding hwellKept (hthreads.outstanding ▸ .refl _) ?_ ?_
  · intro attempt hmem hbefore
    by_cases hid : attempt.receiverId = deviceId
    · exact hattributed attempt (hthreads.outstanding ▸ hmem) hid
    · exact hbefore.of_entryOf (hothers _ hid)
  · intro other queued hentry hinFlight
    rcases eq_or_ne other deviceId with rfl | hne
    · simp [hidle queued hentry] at hinFlight
    · exact h.connecting other queued ((hothers other hne).symm.trans hentry) hinFlight

/-- An entry for which no attempt is outstanding changes, and none is in flight for it afterwards. -/
theorem OneAttempt.of_idle (h : manager.OneAttempt) (hwellKept : next.WellKept)
    (hthreads : manager.SameThreads next)
    (hfree : ∀ attempt ∈ manager.outstanding, attempt.receiverId ≠ deviceId)
    (hidle : ∀ queued, next.entryOf deviceId = some (.pending queued) → queued.inFlight = false)
    (hothers : ∀ other, other ≠ deviceId → next.entryOf other = manager.entryOf other) :
    next.OneAttempt :=
  h.of_others hwellKept hthreads (fun attempt hmem hid ↦ absurd hid (hfree attempt hmem)) hidle
    hothers

/-! ### Calls that start no attempt -/

/-- A waiting target is not refreshed. -/
theorem OneAttempt.refreshed (h : manager.OneAttempt) (h' : manager.Refreshed next) :
    next.OneAttempt := by
  refine h.of_outstanding (h.toWellKept.tended (.of_refreshed h'))
    (h'.outstanding ▸ .refl _) ?_ ?_
  · intro attempt _ hattributed
    -- the entry of an outstanding attempt is no session
    refine hattributed.of_entryOf ((h'.entry attempt.receiverId).eq_of_not_active ?_)
    intro session hactive
    rcases hattributed with hnone | ⟨queued, hqueued, -⟩
    · exact nomatch hnone.symm.trans hactive
    · exact nomatch hqueued.symm.trans hactive
  · intro deviceId queued hentry hinFlight
    have hrefreshed := h'.entry deviceId
    rw [hentry] at hrefreshed
    exact h.connecting deviceId queued hrefreshed.eq_of_pending hinFlight

/-- A target that is given up leaves its attempt, if there is one, without an entry. -/
theorem OneAttempt.retired (h : manager.OneAttempt) (h' : Retired deviceId manager next) :
    next.OneAttempt := by
  refine h.of_others (h.toWellKept.tended (.of_retired h')) h'.toSameThreads ?_ ?_ h'.others
  · rintro attempt hmem rfl
    rcases h'.entry with hnone | ⟨session, snapshot, hactive, -⟩
    · exact Or.inl hnone
    · exact absurd rfl (h.not_outstanding hactive (fun _ hentry ↦ nomatch hentry) attempt hmem)
  · intro queued hentry
    rcases h'.entry with hnone | ⟨session, snapshot, -, hfailed, -⟩
    · exact nomatch hnone.symm.trans hentry
    · exact nomatch hfailed.symm.trans hentry

/-- So does any work on the sessions. -/
theorem OneAttempt.tended (h : manager.OneAttempt) (h' : Tended manager next) : next.OneAttempt :=
  h'.invariant (fun _ _ ↦ OneAttempt.refreshed) (fun _ _ _ ↦ OneAttempt.retired) h

/-- The one step that may go wrong: the new entry of a target that was removed must not be met by the
result of an old attempt. -/
theorem OneAttempt.queueTargetConnect (h : manager.OneAttempt) (now : Instant)
    {target : SenderTarget} (hsettled : manager.entryOf target.receiverId = none →
      ∀ attempt ∈ manager.outstanding, attempt.receiverId ≠ target.receiverId) :
    (manager.queueTargetConnect now target).OneAttempt := by
  rcases queueTargetConnect_cases now target manager with ⟨-, -, -, hsame⟩ | ⟨hidle, hreplaced⟩
  · rw [hsame]
    exact h
  · refine h.of_idle (h.toWellKept.queueTargetConnect now target) hreplaced.toSameThreads ?_ ?_
      hreplaced.others
    · intro attempt hmem hid
      rcases h.attributed attempt hmem with hnone | ⟨queued, hqueued, hinFlight, -⟩
      · rw [hid] at hnone
        exact hsettled hnone attempt hmem hid
      · -- an attempt in flight makes its entry busy, and a busy entry is not replaced
        have hconnecting := h.connecting _ queued hqueued hinFlight
        have hbusy := hidle (.pending queued) (hid ▸ hqueued)
        rw [TargetSessionEntry.state, TargetSessionEntry.snapshot, hconnecting] at hbusy
        exact nomatch hbusy
    · intro queued hentry
      obtain rfl := TargetSessionEntry.pending.inj
        (Option.some.inj (hreplaced.entry.symm.trans hentry))
      rfl

/-! ### Attempts that are started -/

/-- A launch adds one attempt, under a new number. -/
theorem Launched.outstanding {queued : PendingTargetSession}
    (h : Launched deviceId queued manager next) (hkeyed : manager.Keyed) :
    ∃ attempt : ConnectAttempt, attempt.attempt = manager.nextAttempt ∧
      attempt.receiverId = deviceId ∧ next.outstanding.Perm (attempt :: manager.outstanding) := by
  obtain ⟨attempt, hattempt, htarget, hthreads⟩ := h.threads
  refine ⟨attempt, hattempt, ?_, ?_⟩
  · rw [ConnectAttempt.receiverId, htarget]
    exact (hkeyed deviceId _ h.before).1
  · rw [SenderManager.outstanding, hthreads, h.connectRx, List.append_assoc]
    exact List.perm_middle

/-- It finds no other attempt of its target, as one in flight is not due. -/
theorem OneAttempt.launched {queued : PendingTargetSession} (h : manager.OneAttempt)
    (h' : Launched deviceId queued manager next) : next.OneAttempt := by
  obtain ⟨started, hstarted, hid, hperm⟩ := h'.outstanding h.keyed
  have hfree : ∀ attempt ∈ manager.outstanding, attempt.receiverId ≠ deviceId :=
    h.not_outstanding h'.before (by rintro _ ⟨⟩; exact h'.idle)
  refine ⟨h.toWellKept.launched h', ?_, ?_, ?_⟩
  · rw [(hperm.map _).nodup_iff, List.map_cons, List.nodup_cons]
    refine ⟨fun hmem ↦ ?_, h.distinct⟩
    obtain ⟨attempt, hattempt, hsame⟩ := List.mem_map.1 hmem
    exact hfree attempt hattempt (hsame.trans hid)
  · intro attempt hmem
    rcases List.mem_cons.1 (hperm.subset hmem) with rfl | hbefore
    · rw [← hid] at h'
      exact Or.inr ⟨_, h'.entry, rfl, congrArg some hstarted.symm⟩
    · exact (h.attributed attempt hbefore).of_entryOf (h'.others _ (hfree attempt hbefore))
  · intro other after hentry hinFlight
    rcases eq_or_ne other deviceId with rfl | hne
    · obtain rfl := TargetSessionEntry.pending.inj (Option.some.inj (h'.entry.symm.trans hentry))
      rfl
    · exact h.connecting other after ((h'.others other hne).symm.trans hentry) hinFlight

/-! ### Results -/

/-- The result at the head of the channel is one attempt less. -/
theorem outstanding_received {result : TargetConnectResult}
    {connectRx : List (ConnectAttempt × TargetConnectResult)}
    (hhead : manager.connectRx = (attempt, result) :: connectRx) :
    manager.outstanding.Perm (attempt :: (manager.received connectRx).outstanding) := by
  rw [SenderManager.outstanding, hhead, List.map_cons]
  exact List.perm_middle

/-- The attempt whose result was taken was the only one for its target. -/
theorem OneAttempt.received {result : TargetConnectResult}
    {connectRx : List (ConnectAttempt × TargetConnectResult)} (h : manager.OneAttempt)
    (hhead : manager.connectRx = (attempt, result) :: connectRx) :
    (manager.received connectRx).OneAttempt ∧
      ∀ other ∈ (manager.received connectRx).outstanding, other.receiverId ≠ attempt.receiverId := by
  have hperm := outstanding_received hhead
  constructor
  · refine h.of_outstanding (h.toWellKept.received hhead) ?_ (fun _ _ h ↦ h) h.connecting
    exact (List.sublist_cons_self _ _).subperm.trans hperm.symm.subperm
  · have hdistinct := (hperm.map ConnectAttempt.receiverId).nodup_iff.1 h.distinct
    intro other hother hsame
    refine (List.nodup_cons.1 hdistinct).1 ?_
    rw [← hsame]
    exact List.mem_map_of_mem hother

/-- **A result** finds the entry that has waited for it, or none. -/
theorem OneAttempt.result {result : TargetConnectResult} (h : manager.OneAttempt)
    (hanswers : ManagedTargetSession.Answers ⟨attempt.attempt⟩ attempt.target result)
    (hfree : ∀ other ∈ manager.outstanding, other.receiverId ≠ attempt.receiverId)
    (heffect : ResultEffect result manager next) : next.OneAttempt := by
  have hwellKept := h.toWellKept.result hanswers heffect
  rw [ConnectAttempt.receiverId, ← receiverIdOf_of_answers hanswers] at hfree
  cases heffect with
  | unwanted absent threads targets shutDown dropped =>
    have hentry (deviceId : DeviceId) : next.entryOf deviceId = manager.entryOf deviceId := by
      rw [entryOf, entryOf, targets]
    refine h.of_outstanding hwellKept (threads.outstanding ▸ .refl _)
      (fun attempt _ hattributed ↦ hattributed.of_entryOf (hentry _)) ?_
    intro deviceId queued hqueued
    exact h.connecting deviceId queued ((hentry deviceId).symm.trans hqueued)
  | ignored retried present refreshed => exact h.refreshed refreshed
  | requeued queued retried requeued idle snapshot =>
    refine h.of_idle hwellKept requeued.toSameThreads hfree ?_ requeued.others
    intro after hentry
    obtain rfl := TargetSessionEntry.pending.inj
      (Option.some.inj (requeued.entry.symm.trans hentry))
    exact idle
  | placed inserted final present replaced refreshed =>
    have hinserted := h.toWellKept.replaced replaced (keyed_entryFor hanswers)
    refine (h.of_idle hinserted replaced.toSameThreads hfree ?_ replaced.others).refreshed refreshed
    intro queued hentry
    exact absurd (Option.some.inj (replaced.entry.symm.trans hentry)) (entryFor_ne_pending result _)

/-! ### Connect threads -/

/-- An attempt that has its answer is still outstanding until the manager takes it. -/
theorem outstanding_sent (result : TargetConnectResult) (hthread : attempt ∈ manager.threads) :
    (manager.sent attempt result).outstanding.Perm manager.outstanding := by
  have hmoved : (manager.sent attempt result).outstanding =
      manager.threads.erase attempt ++ (manager.connectRx.map Prod.fst ++ [attempt]) := by
    rw [SenderManager.outstanding, sent, List.map_append]
    rfl
  rw [hmoved, SenderManager.outstanding]
  -- the attempt goes from the threads to the end of the channel
  calc List.Perm (manager.threads.erase attempt ++ (manager.connectRx.map Prod.fst ++ [attempt]))
        (manager.threads.erase attempt ++ attempt :: manager.connectRx.map Prod.fst) :=
        (List.perm_append_singleton _ _).append_left _
    List.Perm _ ((attempt :: manager.threads.erase attempt) ++ manager.connectRx.map Prod.fst) :=
        List.perm_middle
    List.Perm _ (manager.threads ++ manager.connectRx.map Prod.fst) :=
        (List.perm_cons_erase hthread).symm.append_right _

/-- A thread that sends its result changes nothing of this. -/
theorem OneAttempt.sent (h : manager.OneAttempt) {result : TargetConnectResult}
    (hwellKept : (manager.sent attempt result).WellKept) (hthread : attempt ∈ manager.threads) :
    (manager.sent attempt result).OneAttempt :=
  h.of_outstanding hwellKept (outstanding_sent result hthread).subperm (fun _ _ h ↦ h) h.connecting

/-- Nor does one that finds the manager gone. -/
theorem OneAttempt.unsent (h : manager.OneAttempt) (attempt : ConnectAttempt)
    (result : TargetConnectResult) : (manager.unsent attempt result).OneAttempt :=
  h.of_outstanding ⟨h.keyed, h.answers⟩
    ((List.erase_sublist.append_right _).subperm) (fun _ _ h ↦ h) h.connecting

/-- The end of the manager leaves its threads alone. -/
theorem OneAttempt.shutdownAll (h : manager.OneAttempt) (env : ManagerEnv) :
    (manager.shutdownAll env).OneAttempt := by
  have hthreads := (tended_foldl_stopTarget (manager.targets.activeIds env.order)
    { manager with capture := none }).sameThreads.threads
  refine h.of_outstanding ⟨keyed_shutdownAll env manager, fun _ hmem ↦ nomatch hmem⟩ ?_
    (fun _ _ _ ↦ Or.inl rfl) (fun _ _ hentry ↦ nomatch hentry)
  have houtstanding : (manager.shutdownAll env).outstanding = manager.threads := by
    rw [← show _ = manager.threads from hthreads]
    exact List.append_nil _
  rw [houtstanding]
  exact (List.sublist_append_left _ _).subperm

end SenderManager

/-! ### Runs -/

/-- A target without an entry is added only if no attempt for it is outstanding. -/
def ReaddsSettled (system : SenderSystem) : SenderInput → Prop
  | .command _ (.addTarget target) => system.manager.entryOf target.receiverId = none →
      ∀ attempt ∈ system.manager.outstanding, attempt.receiverId ≠ target.receiverId
  | _ => True

variable {secsF64 : SecsF64} {format : WireFormat} {system next : SenderSystem}
  {input : SenderInput}

/-- **Every step keeps one attempt per target**, where a target is added again only when its attempt is
settled. -/
theorem step_oneAttempt (h : system.manager.OneAttempt) (hsettled : ReaddsSettled system input)
    (hstep : system.step secsF64 format input = some next) : next.manager.OneAttempt := by
  have hwellKept := step_wellKept h.toWellKept hstep
  cases step_effect h.keyed hstep with
  | tended quiet running phase tended => exact h.tended tended
  | queued env target running phase manager =>
    rw [manager]
    exact h.queueTargetConnect env.now hsettled
  | launched env running phase walked manager =>
    rw [manager]
    exact SenderManager.processPendingTargets_invariant
      (fun _ _ _ _ h hlaunched ↦ h.launched hlaunched) walked h
  | result env attempt result connectRx running phase head manager =>
    obtain ⟨hreceived, hfree⟩ := h.received head
    rw [manager]
    refine hreceived.result (h.answers (attempt, result) ?_) hfree
      (SenderManager.processConnectResult_effect env result _)
    rw [head]
    exact List.mem_cons_self
  | ended env running phase walked manager =>
    rw [manager]
    exact h.shutdownAll env
  | sent attempt env phase running thread manager =>
    rw [manager] at hwellKept ⊢
    exact h.sent hwellKept thread
  | unsent attempt env phase closed thread manager =>
    rw [manager]
    exact h.unsent attempt _

/-- There is no attempt in the beginning. -/
theorem start_oneAttempt (secsF64 : SecsF64) (setup : SenderSetup) (now : Instant)
    (target : SenderTarget) : (SenderSystem.start secsF64 setup now target).manager.OneAttempt := by
  have hnew : (SenderManager.new secsF64 setup).OneAttempt :=
    ⟨⟨(fun _ _ hentry ↦ nomatch hentry), (fun _ hmem ↦ nomatch hmem)⟩, List.nodup_nil,
      (fun _ hmem ↦ nomatch hmem), (fun _ _ hentry ↦ nomatch hentry)⟩
  exact hnew.queueTargetConnect now fun _ _ hmem ↦ nomatch hmem

/-- **A result acts on its own attempt.** Take a run in which no target is added again while an attempt
for it is outstanding. At its end no two outstanding attempts are for one target, and the result that is
taken next either belongs to the attempt its entry has in flight, or it changes no entry and its session
is shut down. For all other targets, sessions at most say something else about themselves. -/
theorem connect_results_attributed (secsF64 : SecsF64) (format : WireFormat) (setup : SenderSetup)
    (now : Instant) (target : SenderTarget) (inputs : List SenderInput) (system : SenderSystem)
    (hrun : Transition.run (SenderSystem.step secsF64 format)
      (SenderSystem.start secsF64 setup now target) inputs = some system)
    (hsettled : Transition.Along (SenderSystem.step secsF64 format) ReaddsSettled
      (SenderSystem.start secsF64 setup now target) inputs) :
    (system.manager.outstanding.map ConnectAttempt.receiverId).Nodup ∧
      ∀ (attempt : ConnectAttempt) (result : TargetConnectResult)
        (connectRx : List (ConnectAttempt × TargetConnectResult)) (env : ManagerEnv)
        (next : SenderSystem), system.manager.connectRx = (attempt, result) :: connectRx →
        system.step secsF64 format (.connectResult env) = some next →
        (system.manager.HasInFlight attempt ∨
          (next.manager.targets = system.manager.targets ∧
            next.manager.shutDown =
              system.manager.shutDown ++ SenderManager.streamsOf result)) ∧
        ∀ other, other ≠ attempt.receiverId →
          EntryRefreshed (system.manager.entryOf other) (next.manager.entryOf other) := by
  have h : system.manager.OneAttempt :=
    Transition.run_invariant_along (fun _ _ _ h hsettled hstep ↦ step_oneAttempt h hsettled hstep)
      (start_oneAttempt secsF64 setup now target) hsettled hrun
  refine ⟨h.distinct, fun attempt result connectRx env next hhead hstep ↦ ?_⟩
  have hmem : (attempt, result) ∈ system.manager.connectRx := by
    rw [hhead]
    exact List.mem_cons_self
  have hanswers := h.answers (attempt, result) hmem
  cases step_effect h.keyed hstep with
  | tended quiet running phase tended => exact nomatch quiet
  | result _ attempt' result' connectRx' running phase head manager =>
    obtain ⟨⟨rfl, rfl⟩, rfl⟩ := by simpa using hhead.symm.trans head
    have heffect := SenderManager.processConnectResult_effect env result
      (system.manager.received connectRx)
    have hid : attempt.receiverId = SenderManager.receiverIdOf result :=
      (SenderManager.receiverIdOf_of_answers hanswers).symm
    rw [manager]
    refine ⟨?_, fun other hne ↦ heffect.others (hid ▸ hne)⟩
    -- a target removed meanwhile has no entry: its session is shut down at once
    rcases h.attributed attempt (List.mem_append_right _ (List.mem_map_of_mem hmem)) with
      habsent | hinFlight
    · exact Or.inr (heffect.of_absent (hid ▸ habsent))
    · exact Or.inl hinFlight

/-- A target is added, and its first attempt is refused. -/
def refusedTarget : List SenderInput :=
  [.noCommand, .pendingTargets Sample.managerEnv,
    .connected ⟨0, Sample.senderTarget 1, 1, Sample.connectRequest⟩ Sample.refused]

/-- The entry's own result. -/
theorem connect_results_attributed_refused :
    ∃ (system next : SenderSystem) (attempt : ConnectAttempt) (result : TargetConnectResult),
      Transition.run (SenderSystem.step Sample.secsF64 Sample.senderFormat)
          (SenderSystem.start Sample.secsF64 Sample.senderSetup 0 (Sample.senderTarget 1))
          refusedTarget = some system ∧
        system.manager.connectRx = [(attempt, result)] ∧
        system.step Sample.secsF64 Sample.senderFormat (.connectResult Sample.managerEnv) =
          some next ∧
        (system.manager.HasInFlight attempt ∨
          (next.manager.targets = system.manager.targets ∧
            next.manager.shutDown =
              system.manager.shutDown ++ SenderManager.streamsOf result)) := by
  have hrun : (Transition.run (SenderSystem.step Sample.secsF64 Sample.senderFormat)
      (SenderSystem.start Sample.secsF64 Sample.senderSetup 0 (Sample.senderTarget 1))
      refusedTarget).map (fun system ↦ (system.manager.connectRx.length,
        (system.step Sample.secsF64 Sample.senderFormat (.connectResult Sample.managerEnv)).isSome)) =
      some (1, true) := by decide +kernel
  obtain ⟨system, hrun, hsystem⟩ := Option.map_eq_some_iff.1 hrun
  obtain ⟨hlength, hstep⟩ := Prod.mk.inj hsystem
  obtain ⟨⟨attempt, result⟩, hconnectRx⟩ := List.length_eq_one_iff.1 hlength
  obtain ⟨next, hnext⟩ := Option.isSome_iff_exists.1 hstep
  have hsettled : Transition.Along (SenderSystem.step Sample.secsF64 Sample.senderFormat)
      ReaddsSettled (SenderSystem.start Sample.secsF64 Sample.senderSetup 0 (Sample.senderTarget 1))
      refusedTarget :=
    ⟨trivial, fun _ _ ↦ ⟨trivial, fun _ _ ↦ ⟨trivial, fun _ _ ↦ trivial⟩⟩⟩
  have hattributed := (connect_results_attributed _ _ _ _ _ _ _ hrun hsettled).2 attempt result []
    Sample.managerEnv next hconnectRx hnext
  exact ⟨system, next, attempt, result, hrun, hconnectRx, hnext, hattributed.1⟩

/-! ### A result for the wrong entry -/

/-- A target is added, removed while the first attempt is under way, and added again with another
endpoint; then the first attempt is refused. -/
def readdedTarget : List SenderInput :=
  [.noCommand, .pendingTargets Sample.managerEnv, .noConnectResult, .mirrorEvents Sample.managerEnv,
    .tick Sample.managerEnv, .capture Sample.managerEnv, .idle Sample.managerEnv,
    .refresh Sample.managerEnv,
    .command Sample.managerEnv (.removeTarget Sample.receiverId),
    .command Sample.managerEnv (.addTarget (Sample.senderTarget 2)), .noCommand,
    .pendingTargets Sample.managerEnv,
    .connected ⟨0, Sample.senderTarget 1, 1, Sample.connectRequest⟩ Sample.refused]

/-- What the entry of the target says about its attempts. -/
def SenderManager.attemptOf (manager : SenderManager) (deviceId : DeviceId) :
    Option (Option ℕ × Bool) :=
  (manager.targets.pendingSession deviceId).map fun queued ↦ (queued.launched, queued.inFlight)

/-- **The old attempt clears the new one.** The entry has attempt 1 in flight, to the second endpoint.
The result of attempt 0 makes it wait for its retry, while attempt 1 is still under way. -/
theorem stale_result_clears_in_flight :
    ∃ system next : SenderSystem,
      Transition.run (SenderSystem.step Sample.secsF64 Sample.senderFormat)
          (SenderSystem.start Sample.secsF64 Sample.senderSetup 0 (Sample.senderTarget 1))
          readdedTarget = some system ∧
        system.step Sample.secsF64 Sample.senderFormat (.connectResult Sample.managerEnv) =
          some next ∧
        system.manager.connectRx.map (fun entry ↦ entry.1.attempt) = [0] ∧
        system.manager.threads.map ConnectAttempt.attempt = [1] ∧
        system.manager.attemptOf Sample.receiverId = some (some 1, true) ∧
        next.manager.threads.map ConnectAttempt.attempt = [1] ∧
        next.manager.attemptOf Sample.receiverId = some (some 1, false) := by
  have hrun : (Transition.run (SenderSystem.step Sample.secsF64 Sample.senderFormat)
      (SenderSystem.start Sample.secsF64 Sample.senderSetup 0 (Sample.senderTarget 1))
      readdedTarget).map (fun system ↦
        (system.manager.connectRx.map (fun entry ↦ entry.1.attempt),
          system.manager.threads.map ConnectAttempt.attempt,
          system.manager.attemptOf Sample.receiverId)) =
      some ([0], [1], some (some 1, true)) := by decide +kernel
  have hstep : (Transition.run (SenderSystem.step Sample.secsF64 Sample.senderFormat)
      (SenderSystem.start Sample.secsF64 Sample.senderSetup 0 (Sample.senderTarget 1))
      (readdedTarget ++ [.connectResult Sample.managerEnv])).map (fun next ↦
        (next.manager.threads.map ConnectAttempt.attempt,
          next.manager.attemptOf Sample.receiverId)) =
      some ([1], some (some 1, false)) := by decide +kernel
  obtain ⟨next, hnext, hafter⟩ := Option.map_eq_some_iff.1 hstep
  obtain ⟨system, hrunTo, hnext⟩ := Transition.run_append_singleton.1 hnext
  rw [hrunTo, Option.map_some, Option.some.injEq] at hrun
  simp only [Prod.mk.injEq] at hrun hafter
  exact ⟨system, next, hrunTo, hnext, hrun.1, hrun.2.1, hrun.2.2, hafter.1, hafter.2⟩

end SynchroSonic
