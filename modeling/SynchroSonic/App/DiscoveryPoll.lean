import SynchroSonic.App.Persistence
import SynchroSonic.Discovery.Browse
import SynchroSonic.Machine.Backlog

/-!
# The application polls discovery

Once a second the application drains `poll_event`, prunes the registry, applies all events to its state
and the registry's snapshot after that. The daemon's thread puts events into the channel at any time; one
that comes in during a drain is as good as one that came in before or after it, for the channel is a queue.
The channel is the daemon's: each start of the search names its capacity, and an event that finds a full
channel does not come in.

* `devices_shown` — at any time the application shows what the registry has, and in a poll the events
  alone bring that about;
* `discovery_keeps_up_iff` — every event finds room, and the channel is kept short, exactly if no more than
  one event comes in between two polls. This holds for every capacity but 0.
-/

namespace SynchroSonic

/-- What a poll of the application meets. -/
structure DiscoveryPollEnv where
  events : ℕ → PollEnv
  pruneWalk : HashWalk
  pruneNow : DeviceId → Instant
  snapshotWalk : HashWalk
  snapshotUnixMs : ℕ

/-- The part of `UiController` that discovery uses. -/
structure DiscoveryController (I : Type) where
  discovery : BrowsingService I
  state : AppState := .new
  diagnostics : List DiagnosticEvent := []

/-- A step of the application, or of the daemon's thread. -/
inductive DiscoveryInput (I : Type)
  /-- The search is started; the channel it is given has this capacity. -/
  | start (mdns : Mdns I) (capacity : Option ℕ) (nowUnixMs : ℕ)
  | stop (mdns : Mdns I)
  | syncReceiverAdvertisement (mdns : Mdns I) (addresses : LocalAddresses) (nowUnixMs : ℕ)
      (request : AdvertisementRequest)
  /-- The user selects a receiver. -/
  | selectReceiverDevice (deviceId : DeviceId)
  | poll (env : DiscoveryPollEnv)
  /-- The daemon has seen something. -/
  | arrive (event : ServiceEvent)
  /-- The daemon is gone. -/
  | disconnect

/-- The events of a poll and of its pruning, the service after them, and the error that ended the drain. -/
structure PolledEvents (I : Type) where
  error : Option DiscoveryError
  discovery : BrowsingService I
  events : List DiscoveryEvent
  staleEvents : List DiscoveryEvent

namespace DiscoveryController

variable {I : Type}

/-- The application at startup. -/
def new (config : DiscoveryConfig) (profile : LocalDiscoveryProfile) : DiscoveryController I where
  discovery := .withProfile config profile

/-- The first half of `start_discovery_poll`. -/
def pollDiscovery (env : DiscoveryPollEnv) (controller : DiscoveryController I) :
    Option (PolledEvents I) :=
  (controller.discovery.drain env.events).map fun (error, discovery, events) ↦
    let (staleEvents, discovery) := discovery.pruneStale env.pruneWalk env.pruneNow
    { error, discovery, events, staleEvents }

/-- The message about a selection that has changed. -/
def selectionMessage (previous current : Option DeviceId) : Option DiagnosticEvent :=
  if previous = current then none
  else
    match previous, current with
    | some previous, some current =>
      some ⟨.warning, "discovery", "Selected receiver " ++ previous.value ++
        " disappeared; switched selection to " ++ current.value ++ "."⟩
    | some previous, none =>
      some ⟨.warning, "discovery", "Selected receiver " ++ previous.value ++
        " disappeared and no replacement receiver is available."⟩
    | none, _ => none

/-- The state after the events of a poll. -/
def told (polled : PolledEvents I) (state : AppState) : AppState :=
  polled.staleEvents.foldl AppState.applyDiscoveryEvent
    (polled.events.foldl AppState.applyDiscoveryEvent state)

/-- The snapshot of a poll. -/
def PolledEvents.snapshot (env : DiscoveryPollEnv) (polled : PolledEvents I) : DiscoverySnapshot :=
  polled.discovery.registry.snapshot (env.snapshotWalk.order polled.discovery.registry)
    env.snapshotUnixMs

/-- The second half of `start_discovery_poll`. -/
def applyPolled (env : DiscoveryPollEnv) (polled : PolledEvents I) (controller : DiscoveryController I) :
    DiscoveryController I :=
  let state := (told polled controller.state).applyDiscoverySnapshot (PolledEvents.snapshot env polled)
  { discovery := polled.discovery
    state
    diagnostics := controller.diagnostics ++
      (polled.error.map fun error ↦ ⟨.warning, "discovery",
        "mDNS discovery event error: " ++ error.display⟩).toList ++
      (selectionMessage controller.state.selectedReceiverDeviceId
        state.selectedReceiverDeviceId).toList }

/-- One step. An event for which there is no channel is lost, and one for which there is no room is not
taken: what the daemon does with it is the daemon's affair. -/
def step (controller : DiscoveryController I) : DiscoveryInput I → Option (DiscoveryController I)
  | .start mdns capacity nowUnixMs =>
    some { controller with discovery := (controller.discovery.start mdns capacity nowUnixMs).2 }
  | .stop mdns => some { controller with discovery := (controller.discovery.stop mdns).2 }
  | .syncReceiverAdvertisement mdns addresses nowUnixMs request =>
    some { controller with discovery :=
      (controller.discovery.syncReceiverAdvertisement mdns addresses nowUnixMs request).2 }
  | .selectReceiverDevice deviceId =>
    some { controller with state := (controller.state.selectReceiverDevice deviceId).2 }
  | .poll env => (controller.pollDiscovery env).map fun polled ↦ controller.applyPolled env polled
  | .arrive event =>
    match controller.discovery.browseReceiver with
    | none => some controller
    | some channel =>
      (channel.send event).map fun channel ↦ { controller with discovery := { controller.discovery with
        browseReceiver := some channel } }
  | .disconnect =>
    some { controller with discovery := { controller.discovery with
      browseReceiver := controller.discovery.browseReceiver.map fun channel ↦
        { channel with connected := false } } }

end DiscoveryController

/-! ### The state follows the registry -/

/-- The state lists what the registry has. -/
structure AppState.Lists (state : AppState) (registry : DeviceRegistry) : Prop where
  keyed : registry.Keyed
  coherent : state.Coherent
  same : ∀ deviceId, (state.device? deviceId).map DiscoveredDevice.unseen =
    (registry.device? deviceId).map DiscoveredDevice.unseen

namespace AppState

variable {state : AppState} {registry next : DeviceRegistry}

theorem lists_new (staleTimeout : Duration) : AppState.new.Lists (.new staleTimeout) := by
  refine ⟨fun deviceId device hdevice ↦ ?_, ⟨listed_new, selects_new⟩, fun _ ↦ rfl⟩
  cases hdevice

/-- **Applying what the registry reports is enough.** -/
theorem Lists.report (h : state.Lists registry) (hkeyed : next.Keyed)
    {event : Option DiscoveryEvent} (hreports : DeviceRegistry.Reports registry event next) :
    (event.toList.foldl applyDiscoveryEvent state).Lists next := by
  refine ⟨hkeyed, ?_, fun deviceId ↦ Eq.trans ?_ (hreports deviceId).symm⟩
  · rcases event with - | event
    · exact h.coherent
    · exact @Coherent.apply state h.coherent (.applyDiscoveryEvent event) trivial
  · rcases event with - | event
    · exact h.same deviceId
    · show ((state.applyDiscoveryEvent event).device? deviceId).map _ = _
      rw [device?_applyDiscoveryEvent, Option.bind_some]
      rcases event.verdict deviceId with - | verdict
      · exact h.same deviceId
      · rfl

/-- An event of the daemon reaches the state. -/
theorem Lists.met (h : state.Lists registry) (localDeviceId : DeviceId) (met : PollEnv × ServiceEvent) :
    ((registry.report localDeviceId met).1.toList.foldl applyDiscoveryEvent state).Lists
      (registry.report localDeviceId met).2 := by
  have hquiet : (([] : List DiscoveryEvent).foldl applyDiscoveryEvent state).Lists registry := h
  have hchange (change : RegistryChange) :=
    h.report (DeviceRegistry.keyed_change h.keyed change) (DeviceRegistry.reports_change h.keyed change)
  obtain ⟨env, event⟩ := met
  cases event with
  | serviceResolved resolved => exact hchange _
  | serviceRemoved serviceType fullname => exact hchange _
  | searchStarted serviceType => exact hquiet
  | serviceFound serviceType fullname => exact hquiet
  | searchStopped serviceType => exact hquiet
  | other => exact hquiet

/-- So do the events of a drain, one after the other. -/
theorem Lists.metAll (h : state.Lists registry) (localDeviceId : DeviceId)
    (met : List (PollEnv × ServiceEvent)) :
    (((Mealy.answers (DeviceRegistry.report localDeviceId) registry met).filterMap id).foldl
      applyDiscoveryEvent state).Lists
        (Mealy.after (DeviceRegistry.report localDeviceId) registry met) := by
  induction met generalizing state registry with
  | nil => exact h
  | cons first met ih =>
    rw [Mealy.answers, Mealy.after, ← List.singleton_append, List.filterMap_append, List.foldl_append]
    refine ih ?_
    have hfirst := h.met localDeviceId first
    rcases hanswer : (registry.report localDeviceId first).1 with - | event
    · rw [hanswer] at hfirst
      exact hfirst
    · rw [hanswer] at hfirst
      exact hfirst

/-- So does a pruning. -/
theorem Lists.prune (h : state.Lists registry) (order : List DeviceId) (now : DeviceId → Instant) :
    ((registry.pruneStale order now).1.foldl applyDiscoveryEvent state).Lists
      (registry.pruneStale order now).2 := by
  refine List.foldlRecOn
    (motive := fun pruned : List DiscoveryEvent × DeviceRegistry ↦
      (pruned.1.foldl applyDiscoveryEvent state).Lists pruned.2)
    order (DeviceRegistry.pruneRound now) h fun pruned hpruned deviceId _ ↦ ?_
  have hchange := DeviceRegistry.reports_change hpruned.keyed (.pruned (now deviceId) deviceId)
  have hkeyed := DeviceRegistry.keyed_change hpruned.keyed (.pruned (now deviceId) deviceId)
  show ((pruned.1 ++ _).foldl applyDiscoveryEvent state).Lists _
  rw [List.foldl_append]
  exact hpruned.report hkeyed hchange

/-- Read as maps, the state and the registry's snapshot have the same devices. -/
theorem Lists.sameDevices (h : state.Lists registry) {order : List DeviceId}
    (hwalk : order.Perm registry.devices.keys) (nowUnixMs : ℕ) :
    SameDevices state.discoveredDevices (registry.snapshot order nowUnixMs).devices := by
  refine ⟨h.coherent.listed.nodup, DeviceRegistry.nodup_snapshot h.keyed hwalk nowUnixMs,
    fun deviceId ↦ ?_⟩
  rw [DeviceRegistry.get?_snapshot h.keyed hwalk]
  exact h.same deviceId

/-- The snapshot itself may be taken over. -/
theorem Lists.snapshot (h : state.Lists registry) {order : List DeviceId}
    (hwalk : order.Perm registry.devices.keys) (nowUnixMs : ℕ) :
    (state.applyDiscoverySnapshot (registry.snapshot order nowUnixMs)).Lists registry := by
  have hnodup := DeviceRegistry.nodup_snapshot h.keyed hwalk nowUnixMs
  refine ⟨h.keyed, @Coherent.apply state h.coherent
    (.applyDiscoverySnapshot (registry.snapshot order nowUnixMs)) hnodup, fun deviceId ↦ ?_⟩
  rw [device?, applyDiscoverySnapshot, discoveredDevices_reconcile,
    DeviceRegistry.get?_snapshot h.keyed hwalk]

/-- What can be connected to is a matter of the registry. -/
theorem Lists.connectable_iff (h : state.Lists registry) {deviceId : DeviceId} :
    state.Connectable deviceId ↔ ∃ device, registry.device? deviceId = some device ∧
      device.isReceiverConnectable = true := by
  have hunseen {left right : DiscoveredDevice} (hsame : left.unseen = right.unseen) :
      left.isReceiverConnectable = right.isReceiverConnectable :=
    show left.unseen.isReceiverConnectable = right.unseen.isReceiverConnectable by rw [hsame]
  have hsame := h.same deviceId
  constructor
  · rintro ⟨device, hmem, rfl, hconnectable⟩
    rw [device?, KeyedList.get?_of_mem h.coherent.listed.nodup hmem, Option.map_some] at hsame
    obtain ⟨known, hknown, hseen⟩ := Option.map_eq_some_iff.1 hsame.symm
    exact ⟨known, hknown, (hunseen hseen).trans hconnectable⟩
  · rintro ⟨known, hknown, hconnectable⟩
    rw [hknown, Option.map_some] at hsame
    obtain ⟨device, hdevice, hseen⟩ := Option.map_eq_some_iff.1 hsame
    exact ⟨device, List.mem_of_find?_eq_some hdevice, KeyedList.key_of_get? hdevice,
      (hunseen hseen).trans hconnectable⟩

/-- A receiver that can be connected to after each of the events stays selected. -/
theorem selected_foldl {events : List DiscoveryEvent} {deviceId : DeviceId}
    (hselected : state.selectedReceiverDeviceId = some deviceId)
    (hstill : ∀ before after, events = before ++ after →
      (before.foldl applyDiscoveryEvent state).Connectable deviceId) :
    (events.foldl applyDiscoveryEvent state).selectedReceiverDeviceId = some deviceId := by
  induction events generalizing state with
  | nil => exact hselected
  | cons event events ih =>
    refine ih ?_ fun before after hevents ↦ hstill (event :: before) after (by rw [hevents]; rfl)
    exact @selected_apply state (.applyDiscoveryEvent event) (by rintro selected ⟨⟩) deviceId hselected
      (hstill [event] events rfl)

end AppState

/-! ### What the application shows -/

namespace DiscoveryController

variable {I : Type} {controller next : DiscoveryController I} {config : DiscoveryConfig}
  {profile : LocalDiscoveryProfile}

/-- **The invariant of the application.** -/
structure Shows (controller : DiscoveryController I) : Prop where
  pending : controller.discovery.pendingEvents = []
  lists : controller.state.Lists controller.discovery.registry

/-- **A poll never fails**, and its events alone make the state list what the registry has. -/
theorem Shows.pollDiscovery (h : controller.Shows) (env : DiscoveryPollEnv) :
    ∃ polled, controller.pollDiscovery env = some polled ∧ polled.discovery.pendingEvents = [] ∧
      (told polled controller.state).Lists polled.discovery.registry := by
  obtain ⟨taken, answers, drained, error, reported, hdrain, hdrained, hends⟩ :=
    BrowsingService.drain_eq env.events h.pending
  refine ⟨_, by rw [DiscoveryController.pollDiscovery, hdrain]; rfl, hdrained.pending, ?_⟩
  have hreported : answers.filterMap id = reported := by
    rcases hends with ⟨-, -, rfl⟩ | ⟨-, rfl⟩
    · rw [List.filterMap_map]
      exact List.filterMap_some
    · rw [List.filterMap_append, List.filterMap_map]
      exact (List.append_nil _).trans List.filterMap_some
  have hlists := h.lists.metAll controller.discovery.advertiser.profile.deviceId
    (metBy env.events 0 taken)
  rw [hdrained.answered, hreported, ← hdrained.registry] at hlists
  exact hlists.prune _ _

theorem Shows.applyPolled {polled : PolledEvents I} (hpending : polled.discovery.pendingEvents = [])
    (htold : (told polled controller.state).Lists polled.discovery.registry) (env : DiscoveryPollEnv) :
    (controller.applyPolled env polled).Shows :=
  ⟨hpending, htold.snapshot (env.snapshotWalk.perm _) _⟩

theorem shows_new (config : DiscoveryConfig) (profile : LocalDiscoveryProfile) :
    (new config profile : DiscoveryController I).Shows := ⟨rfl, AppState.lists_new _⟩

/-- **Every step keeps the invariant.** Only a poll touches the registry. -/
theorem shows_step {input : DiscoveryInput I} (h : controller.Shows)
    (hstep : controller.step input = some next) : next.Shows := by
  cases input with
  | start mdns capacity nowUnixMs =>
    obtain rfl := Option.some.inj hstep
    exact ⟨h.pending, h.lists⟩
  | stop mdns =>
    obtain rfl := Option.some.inj hstep
    exact ⟨h.pending, h.lists⟩
  | syncReceiverAdvertisement mdns addresses nowUnixMs request =>
    obtain rfl := Option.some.inj hstep
    exact ⟨h.pending, h.lists⟩
  | selectReceiverDevice deviceId =>
    obtain rfl := Option.some.inj hstep
    refine ⟨h.pending, h.lists.keyed, @AppState.Coherent.apply controller.state h.lists.coherent
      (.selectReceiverDevice deviceId) trivial, fun other ↦ Eq.trans ?_ (h.lists.same other)⟩
    rw [AppState.selectReceiverDevice]
    split
    · rfl
    · rfl
  | poll env =>
    obtain ⟨polled, hpolled, rfl⟩ := Option.map_eq_some_iff.1 hstep
    obtain ⟨polled', hpolled', hpending, htold⟩ := h.pollDiscovery env
    obtain rfl := Option.some.inj (hpolled.symm.trans hpolled')
    exact Shows.applyPolled hpending htold env
  | arrive event =>
    rw [step] at hstep
    split at hstep
    · obtain rfl := Option.some.inj hstep
      exact h
    · obtain ⟨channel, -, rfl⟩ := Option.map_eq_some_iff.1 hstep
      exact ⟨h.pending, h.lists⟩
  | disconnect =>
    obtain rfl := Option.some.inj hstep
    exact ⟨h.pending, h.lists⟩

/-- **The application shows the network as the registry has it.** After any starts, stops, advertisements,
selections, polls and events of the daemon, in any order: nothing reported is left behind in the queue, the
devices shown are those of the registry, each found under its id and equal but for the time it was last
seen, and a receiver is selected exactly if one can be connected to. A poll always ends; its events alone
bring the list up to date, whatever snapshot follows; and a selected receiver that can be connected to after
each of them stays selected, without a word. -/
theorem devices_shown {inputs : List (DiscoveryInput I)}
    (hrun : Transition.run step (new config profile) inputs = some controller) :
    controller.discovery.pendingEvents = [] ∧
    (∀ (walk : HashWalk) (nowUnixMs : ℕ), SameDevices controller.state.discoveredDevices
      (controller.discovery.registry.snapshot (walk.order controller.discovery.registry)
        nowUnixMs).devices) ∧
    controller.state.Coherent ∧
    ∀ env, ∃ polled, controller.pollDiscovery env = some polled ∧
      SameDevices (told polled controller.state).discoveredDevices
        (PolledEvents.snapshot env polled).devices ∧
      ∀ deviceId, controller.state.selectedReceiverDeviceId = some deviceId →
        (∀ before after, polled.events ++ polled.staleEvents = before ++ after →
          (before.foldl AppState.applyDiscoveryEvent controller.state).Connectable deviceId) →
        (controller.applyPolled env polled).state.selectedReceiverDeviceId = some deviceId ∧
        (controller.applyPolled env polled).diagnostics = controller.diagnostics ++
          (polled.error.map fun error ↦ ⟨.warning, "discovery",
            "mDNS discovery event error: " ++ error.display⟩).toList := by
  have h : controller.Shows :=
    Transition.run_invariant (fun _ _ _ ↦ shows_step) (shows_new config profile) hrun
  refine ⟨h.pending, fun walk nowUnixMs ↦ h.lists.sameDevices (walk.perm _) nowUnixMs, h.lists.coherent,
    fun env ↦ ?_⟩
  obtain ⟨polled, hpolled, hpending, htold⟩ := h.pollDiscovery env
  refine ⟨polled, hpolled, htold.sameDevices (env.snapshotWalk.perm _) _,
    fun deviceId hselected hstill ↦ ?_⟩
  have hfolded : told polled controller.state =
      (polled.events ++ polled.staleEvents).foldl AppState.applyDiscoveryEvent controller.state :=
    List.foldl_append.symm
  have hkept := AppState.selected_foldl hselected hstill
  have hconnectable := hstill (polled.events ++ polled.staleEvents) [] (List.append_nil _).symm
  rw [← hfolded] at hkept hconnectable
  -- the snapshot has the same devices, so it leaves the selection alone as well
  have hshown := htold.snapshot (env.snapshotWalk.perm polled.discovery.registry) env.snapshotUnixMs
  have hafter : (controller.applyPolled env polled).state.selectedReceiverDeviceId = some deviceId :=
    @AppState.selected_apply _ (.applyDiscoverySnapshot (PolledEvents.snapshot env polled))
      (by rintro selected ⟨⟩) deviceId hkept (hshown.connectable_iff.2 (htold.connectable_iff.1 hconnectable))
  refine ⟨hafter, ?_⟩
  show _ ++ _ ++ (selectionMessage _ (controller.applyPolled env polled).state.selectedReceiverDeviceId).toList
    = _
  rw [hafter, hselected, selectionMessage, if_pos rfl]
  exact List.append_nil _

/-! ### Whether the application keeps up -/

/-- Some events come in, and the application polls. -/
def pollRound (round : List ServiceEvent × DiscoveryPollEnv) : List (DiscoveryInput I) :=
  round.1.map .arrive ++ [.poll round.2]

/-- The search is on with a channel of this capacity, and these events wait. -/
structure Browses (capacity : Option ℕ) (waiting : List ServiceEvent)
    (controller : DiscoveryController I) : Prop where
  shows : controller.Shows
  receiver : controller.discovery.browseReceiver = some { capacity, events := waiting }

section Keeping

variable {capacity : Option ℕ} {waits rest : List ServiceEvent}

/-- The service sees what waits in its channel. -/
theorem Browses.waiting (h : controller.Browses capacity waits) :
    controller.discovery.waiting = waits := by
  rw [BrowsingService.waiting, h.receiver]
  rfl

/-- An event comes in exactly if there is room for it. -/
theorem Browses.step_arrive (h : controller.Browses capacity waits) (event : ServiceEvent) :
    controller.step (.arrive event) = if capacity.all (waits.length < ·) then
      some { controller with discovery := { controller.discovery with
        browseReceiver := some { capacity, events := waits ++ [event] } } } else none := by
  rw [step, h.receiver]
  simp only [BrowseChannel.send, Bool.not_true, Bool.false_eq_true, if_false]
  split
  · rfl
  · rfl

/-- What has come in waits behind the others. -/
theorem Browses.arrived (h : controller.Browses capacity waits) {event : ServiceEvent}
    (hstep : controller.step (.arrive event) = some next) :
    next.Browses capacity (waits ++ [event]) := by
  refine ⟨shows_step h.shows hstep, ?_⟩
  rw [h.step_arrive] at hstep
  split at hstep
  · obtain rfl := Option.some.inj hstep
    rfl
  · cases hstep

/-- Several events that came in wait in the order in which they came. -/
theorem Browses.arrivedAll (h : controller.Browses capacity waits) {arrivals : List ServiceEvent}
    (hrun : Transition.run step controller (arrivals.map DiscoveryInput.arrive) = some next) :
    next.Browses capacity (waits ++ arrivals) := by
  induction arrivals generalizing controller waits with
  | nil =>
    obtain rfl := Option.some.inj hrun
    rwa [List.append_nil]
  | cons event arrivals ih =>
    obtain ⟨middle, hstep, hrest⟩ := Transition.run_cons.1 hrun
    have := ih (h.arrived hstep) hrest
    rwa [List.append_assoc] at this

/-- **A poll takes one of the waiting events at least.** -/
theorem Browses.poll (h : controller.Browses capacity waits) (env : DiscoveryPollEnv) :
    ∃ next rest, controller.step (.poll env) = some next ∧ next.Browses capacity rest ∧
      rest.length ≤ waits.length - 1 := by
  obtain ⟨taken, answers, drained, error, reported, hdrain, hdrained, hends⟩ :=
    BrowsingService.drain_eq env.events h.shows.pending
  have hstep : ∃ next, controller.step (.poll env) = some next ∧
      next.discovery.browseReceiver = drained.browseReceiver := by
    rw [step, DiscoveryController.pollDiscovery, hdrain]
    exact ⟨_, rfl, rfl⟩
  obtain ⟨next, hnext, hreceiver⟩ := hstep
  refine ⟨next, drained.waiting, hnext, ⟨shows_step h.shows hnext, ?_⟩, ?_⟩
  · rw [hreceiver, hdrained.receiver, h.receiver]
    rfl
  · rw [← h.waiting, hdrained.took, List.length_append]
    rcases hends with ⟨hover, -, -⟩ | ⟨-, hlast⟩
    · rw [hover]
      exact Nat.zero_le _
    · have htaken : taken ≠ [] := by
        rintro rfl
        exact List.append_ne_nil_of_right_ne_nil _ (List.cons_ne_nil _ _)
          (hlast.symm.trans hdrained.answered.symm)
      have := List.length_pos_iff.2 htaken
      omega

/-- It takes one only if that one changes nothing. -/
theorem Browses.pollFound {serviceType fullname : String}
    (h : controller.Browses capacity (.serviceFound serviceType fullname :: rest))
    (env : DiscoveryPollEnv) :
    ∃ next, controller.step (.poll env) = some next ∧ next.Browses capacity rest := by
  have hpoll := BrowsingService.pollEvent_cons h.shows.pending h.receiver rfl (env.events 0)
  have hdrain : controller.discovery.drain env.events = some (none, { controller.discovery with
      browseReceiver := some { capacity, events := rest }, pendingEvents := [] }, []) :=
    Loop.run_succ_of_done (by rw [BrowsingService.drainBody, hpoll]; rfl)
  have hstep : ∃ next, controller.step (.poll env) = some next ∧
      next.discovery.browseReceiver = some { capacity, events := rest } := by
    rw [step, DiscoveryController.pollDiscovery, hdrain]
    exact ⟨_, rfl, rfl⟩
  obtain ⟨next, hnext, hreceiver⟩ := hstep
  exact ⟨next, hnext, shows_step h.shows hnext, hreceiver⟩

/-- At most one event comes in before a poll: it finds room, and the poll takes it. -/
theorem Browses.round (hroom : capacity ≠ some 0) (h : controller.Browses capacity [])
    (round : List ServiceEvent × DiscoveryPollEnv) (hone : round.1.length ≤ 1) :
    ∃ next, Transition.run step controller (pollRound round) = some next ∧
      next.Browses capacity [] := by
  obtain ⟨arrived, hrun⟩ : ∃ arrived, Transition.run step controller
      (round.1.map DiscoveryInput.arrive) = some arrived := by
    rcases round with ⟨- | ⟨event, more⟩, env⟩
    · exact ⟨controller, rfl⟩
    · obtain rfl := List.eq_nil_of_length_eq_zero (Nat.le_zero.1 (Nat.le_of_succ_le_succ hone))
      have hfits : capacity.all (([] : List ServiceEvent).length < ·) = true := by
        rcases capacity with - | ⟨- | size⟩
        · rfl
        · exact absurd rfl hroom
        · rfl
      exact ⟨_, Transition.run_cons.2 ⟨_, by rw [h.step_arrive, if_pos hfits], rfl⟩⟩
  obtain ⟨next, rest, hpoll, hnext, hless⟩ := (h.arrivedAll hrun).poll round.2
  refine ⟨next, Transition.run_append_singleton.2 ⟨arrived, hrun, hpoll⟩, ?_⟩
  rw [List.nil_append] at hless
  obtain rfl := List.eq_nil_of_length_eq_zero (Nat.le_zero.1 (hless.trans (Nat.sub_le_sub_right hone 1)))
  exact hnext

/-- **One event before each poll is never one too many.** -/
theorem Browses.keepsUp (hroom : capacity ≠ some 0) (h : controller.Browses capacity [])
    {rounds : List (List ServiceEvent × DiscoveryPollEnv)}
    (hone : ∀ round ∈ rounds, round.1.length ≤ 1) :
    ∃ final, Transition.run step controller (rounds.flatMap pollRound) = some final ∧
      final.Browses capacity [] := by
  induction rounds generalizing controller with
  | nil => exact ⟨controller, rfl, h⟩
  | cons round rounds ih =>
    obtain ⟨polled, hpolled, hnext⟩ := h.round hroom round (hone round List.mem_cons_self)
    obtain ⟨final, hfinal, hrest⟩ := ih hnext fun later hlater ↦ hone later (List.mem_cons_of_mem _ hlater)
    refine ⟨final, ?_, hrest⟩
    rw [List.flatMap_cons]
    exact Transition.run_append.2 ⟨polled, hpolled, hfinal⟩

/-- Found services, which change nothing: if all of them find room, they pile up as with a server that takes
one in each round. -/
theorem Browses.found (env : DiscoveryPollEnv) {many : ℕ}
    (h : controller.Browses capacity (List.replicate many (.serviceFound "" ""))) {arrivals : List ℕ}
    (hrun : Transition.run step controller ((arrivals.map fun arriving ↦
      (List.replicate arriving (.serviceFound "" ""), env)).flatMap pollRound) = some next) :
    next.Browses capacity (List.replicate (Backlog.after 1 many arrivals) (.serviceFound "" "")) := by
  induction arrivals generalizing controller many with
  | nil =>
    obtain rfl := Option.some.inj hrun
    exact h
  | cons arriving arrivals ih =>
    rw [List.map_cons, List.flatMap_cons] at hrun
    obtain ⟨polled, hround, hrest⟩ := Transition.run_append.1 hrun
    obtain ⟨arrived, harrived, hpoll⟩ := Transition.run_append_singleton.1 hround
    have hwaits := h.arrivedAll harrived
    rw [List.replicate_append_replicate] at hwaits
    refine @ih _ (Backlog.serve 1 many arriving) ?_ hrest
    rw [Backlog.serve]
    generalize many + arriving = all at hwaits
    rcases all with - | left
    · obtain ⟨next', rest, hpoll', hnext, hless⟩ := hwaits.poll env
      obtain rfl := Option.some.inj (hpoll.symm.trans hpoll')
      obtain rfl := List.eq_nil_of_length_eq_zero (Nat.le_zero.1 hless)
      exact hnext
    · obtain ⟨next', hpoll', hnext⟩ := hwaits.pollFound env
      obtain rfl := Option.some.inj (hpoll.symm.trans hpoll')
      exact hnext

end Keeping

/-- A hash map that is walked through in the order in which its entries came in. -/
def entryWalk : HashWalk := ⟨fun registry ↦ registry.devices.keys, fun _ ↦ .refl _⟩

/-- **The application keeps up with one event of the daemon between two polls, and with no more.** Whatever
has happened before, while the search is on and nothing waits: that every event finds room in the channel,
and that what the polls leave there is bounded, for all schedules with at most so many new events before
each poll, holds exactly if that is one at most, although a poll goes on until no event is returned.

The channel is the daemon's, which may make it unbounded or of any capacity but 0. If it is unbounded,
events always find room and it is the bound that fails; if it is bounded, it fills up. -/
theorem discovery_keeps_up_iff {inputs : List (DiscoveryInput I)} {capacity : Option ℕ}
    (hrun : Transition.run step (new config profile) inputs = some controller)
    (hchannel : controller.discovery.browseReceiver = some { capacity }) (hroom : capacity ≠ some 0)
    (most : ℕ) :
    (∃ bound, ∀ rounds : List (List ServiceEvent × DiscoveryPollEnv),
      (∀ round ∈ rounds, round.1.length ≤ most) →
      ∃ final, Transition.run step controller (rounds.flatMap pollRound) = some final ∧
        final.discovery.waiting.length ≤ bound) ↔ most ≤ 1 := by
  have h : controller.Browses capacity [] :=
    ⟨Transition.run_invariant (fun _ _ _ ↦ shows_step) (shows_new config profile) hrun, hchannel⟩
  constructor
  · rintro ⟨bound, hbound⟩
    refine (Backlog.bounded_iff 1 most).1 ⟨bound, fun arrivals harrivals ↦ ?_⟩
    let env : DiscoveryPollEnv := ⟨fun _ ↦ ⟨0, 0, 0, entryWalk⟩, entryWalk, fun _ ↦ 0, entryWalk, 0⟩
    have hmost : ∀ round ∈ arrivals.map fun arriving ↦
        (List.replicate arriving (ServiceEvent.serviceFound "" ""), env), round.1.length ≤ most := by
      intro round hround
      obtain ⟨arriving, harriving, rfl⟩ := List.mem_map.1 hround
      rw [List.length_replicate]
      exact harrivals arriving harriving
    obtain ⟨final, hfinal, hless⟩ := hbound _ hmost
    have hleft := @Browses.found I controller final capacity env 0 h arrivals hfinal
    rwa [hleft.waiting, List.length_replicate] at hless
  · intro hone
    refine ⟨0, fun rounds hrounds ↦ ?_⟩
    obtain ⟨final, hfinal, hempty⟩ := h.keepsUp hroom fun round hround ↦ (hrounds round hround).trans hone
    refine ⟨final, hfinal, ?_⟩
    rw [hempty.waiting]
    exact le_refl _

end DiscoveryController

namespace Sample

/-- An application whose search is on, and a receiver that is resolved. -/
def browsing : List (DiscoveryInput String) :=
  [.start mdns (some 10) 0, .arrive (.serviceResolved resolvedLivingRoom)]

/-- A poll right after that. -/
def firstPoll : DiscoveryPollEnv :=
  let walk := DiscoveryController.entryWalk
  ⟨fun _ ↦ ⟨1, 1, 1, walk⟩, walk, fun _ ↦ 2, walk, 2⟩

def localProfile : LocalDiscoveryProfile := { livingRoom with deviceId := ⟨"desk"⟩ }

end Sample

namespace DiscoveryController

theorem devices_shown_resolved :
    ∃ controller polled, Transition.run step (new {} Sample.localProfile) Sample.browsing =
        some controller ∧
      controller.pollDiscovery Sample.firstPoll = some polled ∧ polled.events.length = 1 ∧
      SameDevices (told polled controller.state).discoveredDevices
        (PolledEvents.snapshot Sample.firstPoll polled).devices := by
  have hrun : (Transition.run step (new {} Sample.localProfile) Sample.browsing).map
      (fun controller ↦ (controller.pollDiscovery Sample.firstPoll).map fun polled ↦
        polled.events.length) = some (some 1) := by decide +kernel
  obtain ⟨controller, hcontroller, hpoll⟩ := Option.map_eq_some_iff.1 hrun
  obtain ⟨polled, hpolled, hevents⟩ := Option.map_eq_some_iff.1 hpoll
  obtain ⟨polled', hpolled', hsame, -⟩ :=
    (devices_shown hcontroller).2.2.2 Sample.firstPoll
  obtain rfl := Option.some.inj (hpolled.symm.trans hpolled')
  exact ⟨controller, polled, hcontroller, hpolled, hevents, hsame⟩

/-- Two services may be found between two polls, and no bound holds. -/
theorem discovery_keeps_up_iff_started :
    ∃ controller, Transition.run step (new {} Sample.localProfile) (Sample.browsing.take 1) =
        some controller ∧
      ¬∃ bound, ∀ rounds : List (List ServiceEvent × DiscoveryPollEnv),
        (∀ round ∈ rounds, round.1.length ≤ 2) →
        ∃ final, Transition.run step controller (rounds.flatMap pollRound) = some final ∧
          final.discovery.waiting.length ≤ bound :=
  ⟨_, rfl, fun hbounded ↦ absurd ((@discovery_keeps_up_iff String _ {} Sample.localProfile
    (Sample.browsing.take 1) (some 10) rfl rfl (by decide) 2).1 hbounded) (by decide)⟩

end DiscoveryController

end SynchroSonic
