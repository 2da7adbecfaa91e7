import SynchroSonic.Discovery.ChangeLog
import SynchroSonic.Discovery.Resolved
import SynchroSonic.Discovery.Service
import SynchroSonic.Machine.Loop
import SynchroSonic.Machine.Mealy

/-!
# Browsing

The other half of `MdnsDiscoveryService`: the daemon puts what it sees on the network into a channel,
`poll_event` takes one of these events at a time and tells the registry, and what the registry reports is
handed on through a queue.

The application calls `poll_event` until it returns no event. But it returns none as well when the event it
has taken changes nothing, so a drain ends with the first such event and leaves the others in the channel
(`drain_eq`).
-/

namespace SynchroSonic

/-- `ServiceEvent`, without the variants nobody looks at. -/
inductive ServiceEvent
  | searchStarted (serviceType : String)
  | serviceFound (serviceType fullname : String)
  | serviceResolved (resolved : ResolvedService)
  | serviceRemoved (serviceType fullname : String)
  | searchStopped (serviceType : String)
  | other

/-- The receiving end of a browse channel. The daemon makes the channel, so whether it is bounded, and how
many events it holds then, is the daemon's choice. -/
structure BrowseChannel where
  /-- How many events may wait, where the channel is bounded. -/
  capacity : Option ℕ
  /-- What waits, oldest first. -/
  events : List ServiceEvent := []
  /-- The daemon has its end still. -/
  connected : Bool := true

/-- The daemon puts an event into the channel, or it cannot: the channel is full. An event that comes when
the daemon has let go of its end is lost. -/
def BrowseChannel.send (event : ServiceEvent) (channel : BrowseChannel) : Option BrowseChannel :=
  if !channel.connected then some channel
  else if channel.capacity.all (channel.events.length < ·) then
    some { channel with events := channel.events ++ [event] }
  else none

/-- The order in which a walk through a hash map meets its keys. -/
structure HashWalk where
  order : DeviceRegistry → List DeviceId
  perm : ∀ registry, (order registry).Perm registry.devices.keys

/-- The clocks and the hash map, as one call of `poll_event` meets them. -/
structure PollEnv where
  resolvedUnixMs : ℕ
  nowUnixMs : ℕ
  now : Instant
  walk : HashWalk

/-- The whole of `MdnsDiscoveryService`. -/
structure BrowsingService (I : Type) where
  /-- The half that advertises. -/
  advertiser : MdnsDiscoveryService I
  registry : DeviceRegistry
  browseReceiver : Option BrowseChannel := none
  pendingEvents : List DiscoveryEvent := []

namespace BrowsingService

variable {I : Type}

/-- `with_profile`. -/
def withProfile (config : DiscoveryConfig) (profile : LocalDiscoveryProfile) : BrowsingService I where
  advertiser := .withProfile config profile
  registry := .new (max config.staleTimeoutSecs.toNat 1 * 1000000000)

/-- `start`. The receiver is there exactly when the search is on: a refresh that fails calls `stop`, which
ends both together. `capacity` is that of the channel the daemon answers with. -/
def start (mdns : Mdns I) (capacity : Option ℕ) (nowUnixMs : ℕ) (service : BrowsingService I) :
    Except DiscoveryError Unit × BrowsingService I :=
  let (result, advertiser) := service.advertiser.start mdns nowUnixMs
  let opens := service.advertiser.config.enabled && service.advertiser.daemon.isNone &&
    mdns.newDaemon.isOk && (mdns.answer [] (.browse service.advertiser.config.serviceType)).isOk
  (result, { service with
    advertiser
    browseReceiver :=
      if !opens then service.browseReceiver
      else if advertiser.localStatus.browseActive then some { capacity }
      else none })

/-- `stop`. -/
def stop (mdns : Mdns I) (service : BrowsingService I) :
    Except DiscoveryError Unit × BrowsingService I :=
  let (result, advertiser) := service.advertiser.stop mdns
  (result, { service with
    advertiser
    browseReceiver :=
      if service.advertiser.daemon.isNone || !result.isOk then service.browseReceiver else none })

/-- `sync_receiver_advertisement`. -/
def syncReceiverAdvertisement (mdns : Mdns I) (addresses : LocalAddresses) (nowUnixMs : ℕ)
    (request : AdvertisementRequest) (service : BrowsingService I) :
    Except DiscoveryError Bool × BrowsingService I :=
  let (result, advertiser) :=
    service.advertiser.syncReceiverAdvertisement mdns addresses nowUnixMs request
  (result, { service with advertiser })

/-- The search is on, or over. -/
def browsing (browseActive : Bool) (service : BrowsingService I) : BrowsingService I :=
  { service with advertiser := { service.advertiser with
    localStatus := { service.advertiser.localStatus with browseActive } } }

/-- The registry has answered, and its report is queued. -/
def reported (answer : Option DiscoveryEvent × DeviceRegistry) (service : BrowsingService I) :
    BrowsingService I :=
  { service with
    registry := answer.2
    pendingEvents := service.pendingEvents ++ answer.1.toList }

/-- `handle_mdns_event`. -/
def handleMdnsEvent (env : PollEnv) (event : ServiceEvent) (service : BrowsingService I) :
    Except DiscoveryError Unit × BrowsingService I :=
  match event with
  | .searchStarted _ => (.ok (), service.browsing true)
  | .serviceFound _ _ => (.ok (), service)
  | .serviceResolved resolved =>
    match discoveredDeviceFromResolved env.resolvedUnixMs resolved
        service.advertiser.profile.deviceId with
    | .error error => (.error error, service)
    | .ok device => (.ok (), service.reported (service.registry.upsert env.nowUnixMs env.now device))
  | .serviceRemoved _ fullname =>
    (.ok (), service.reported
      (service.registry.markRemovedByFullname (env.walk.order service.registry) fullname))
  | .searchStopped _ => (.ok (), service.browsing false)
  | .other => (.ok (), service)

/-- `poll_event`. -/
def pollEvent (env : PollEnv) (service : BrowsingService I) :
    Except DiscoveryError (Option DiscoveryEvent) × BrowsingService I :=
  match service.pendingEvents with
  | event :: pendingEvents => (.ok (some event), { service with pendingEvents })
  | [] =>
    match service.browseReceiver with
    | none => (.ok none, service)
    | some channel =>
      match channel.events with
      | event :: events =>
        match handleMdnsEvent env event
            { service with browseReceiver := some { channel with events } } with
        | (.error error, service) => (.error error, service)
        | (.ok (), service) =>
          (.ok service.pendingEvents.head?,
            { service with pendingEvents := service.pendingEvents.tail })
      | [] =>
        if channel.connected then (.ok none, service)
        else (.error (.event "mDNS browse channel disconnected"), service)

/-- `prune_stale`. -/
def pruneStale (walk : HashWalk) (now : DeviceId → Instant) (service : BrowsingService I) :
    List DiscoveryEvent × BrowsingService I :=
  let (events, registry) := service.registry.pruneStale (walk.order service.registry) now
  (events, { service with registry })

/-! ### A drain -/

/-- What waits in the channel. -/
def waiting (service : BrowsingService I) : List ServiceEvent :=
  (service.browseReceiver.map BrowseChannel.events).getD []

/-- One round of the application's loop: how many rounds there were, the service and the events so far. -/
def drainBody (envs : ℕ → PollEnv) (s : ℕ × BrowsingService I × List DiscoveryEvent) :
    LoopStep (ℕ × BrowsingService I × List DiscoveryEvent)
      (Option DiscoveryError × BrowsingService I × List DiscoveryEvent) :=
  match s.2.1.pollEvent (envs s.1) with
  | (.ok (some event), service) => .again (s.1 + 1, service, s.2.2 ++ [event])
  | (.ok none, service) => .done (none, service, s.2.2)
  | (.error error, service) => .done (some error, service, s.2.2)

/-- The application's loop. Every round that goes on takes an event from one of the two queues, so their
lengths bound the number of rounds (`drain_eq`). -/
def drain (envs : ℕ → PollEnv) (service : BrowsingService I) :
    Option (Option DiscoveryError × BrowsingService I × List DiscoveryEvent) :=
  Loop.run (drainBody envs) (service.pendingEvents.length + service.waiting.length + 1) (0, service, [])

end BrowsingService

/-! ### What a drain takes -/

/-- What the registry makes of an event. -/
def DeviceRegistry.report (localDeviceId : DeviceId) (registry : DeviceRegistry)
    (met : PollEnv × ServiceEvent) : Option DiscoveryEvent × DeviceRegistry :=
  match met.2 with
  | .serviceResolved resolved =>
    match discoveredDeviceFromResolved met.1.resolvedUnixMs resolved localDeviceId with
    | .error _ => (none, registry)
    | .ok device => registry.change (.upserted met.1.nowUnixMs met.1.now device)
  | .serviceRemoved _ fullname => registry.change (.removed (met.1.walk.order registry) fullname)
  | .searchStarted _ | .serviceFound _ _ | .searchStopped _ | .other => (none, registry)

/-- The events, each with what the call meets that takes it. -/
def metBy (envs : ℕ → PollEnv) (n : ℕ) (events : List ServiceEvent) : List (PollEnv × ServiceEvent) :=
  (events.zipIdx n).map fun event ↦ (envs event.2, event.1)

namespace BrowsingService

variable {I : Type} {service next : BrowsingService I}

/-- What the advertising half takes note of. -/
def heard (advertiser : MdnsDiscoveryService I) : ServiceEvent → MdnsDiscoveryService I
  | .searchStarted _ =>
    { advertiser with localStatus := { advertiser.localStatus with browseActive := true } }
  | .searchStopped _ =>
    { advertiser with localStatus := { advertiser.localStatus with browseActive := false } }
  | .serviceFound _ _ | .serviceResolved _ | .serviceRemoved _ _ | .other => advertiser

theorem heard_profile (advertiser : MdnsDiscoveryService I) (event : ServiceEvent) :
    (heard advertiser event).profile = advertiser.profile := by
  cases event <;> rfl

/-- **An event never fails**, and what the registry reports is queued. -/
theorem handleMdnsEvent_eq (env : PollEnv) (event : ServiceEvent) (service : BrowsingService I) :
    handleMdnsEvent env event service = (.ok (), { service with
      advertiser := heard service.advertiser event
      registry := (service.registry.report service.advertiser.profile.deviceId (env, event)).2
      pendingEvents := service.pendingEvents ++
        (service.registry.report service.advertiser.profile.deviceId (env, event)).1.toList }) := by
  cases event with
  | serviceResolved resolved => rfl
  | serviceRemoved serviceType fullname => rfl
  | searchStarted serviceType =>
    rw [DeviceRegistry.report, Option.toList_none, List.append_nil]
    rfl
  | serviceFound serviceType fullname =>
    rw [DeviceRegistry.report, Option.toList_none, List.append_nil]
    rfl
  | searchStopped serviceType =>
    rw [DeviceRegistry.report, Option.toList_none, List.append_nil]
    rfl
  | other =>
    rw [DeviceRegistry.report, Option.toList_none, List.append_nil]
    rfl

/-- The call takes an event and returns what the registry reports of it. -/
theorem pollEvent_cons {channel : BrowseChannel} {event : ServiceEvent} {events : List ServiceEvent}
    (hpending : service.pendingEvents = []) (hreceiver : service.browseReceiver = some channel)
    (hevents : channel.events = event :: events) (env : PollEnv) :
    service.pollEvent env =
      (.ok (service.registry.report service.advertiser.profile.deviceId (env, event)).1,
        { advertiser := heard service.advertiser event
          registry := (service.registry.report service.advertiser.profile.deviceId (env, event)).2
          browseReceiver := some { channel with events }
          pendingEvents := [] }) := by
  simp only [pollEvent, hpending, hreceiver, hevents, handleMdnsEvent_eq, List.nil_append]
  rcases (service.registry.report service.advertiser.profile.deviceId (env, event)).1 with - | reported
  · rfl
  · rfl

/-- What an error of a drain says. -/
def drainError (channel : Option BrowseChannel) : Option DiscoveryError :=
  if channel.all BrowseChannel.connected then none
  else some (.event "mDNS browse channel disconnected")

/-- What a drain has done: the events it has taken and the registry's answers to them. -/
structure Drained (envs : ℕ → PollEnv) (n : ℕ) (service next : BrowsingService I)
    (taken : List ServiceEvent) (answers : List (Option DiscoveryEvent)) : Prop where
  took : service.waiting = taken ++ next.waiting
  answered : Mealy.answers (DeviceRegistry.report service.advertiser.profile.deviceId)
    service.registry (metBy envs n taken) = answers
  registry : next.registry = Mealy.after (DeviceRegistry.report service.advertiser.profile.deviceId)
    service.registry (metBy envs n taken)
  receiver : next.browseReceiver = service.browseReceiver.map fun channel ↦
    { channel with events := next.waiting }
  pending : next.pendingEvents = []
  advertiser : next.advertiser = taken.foldl heard service.advertiser

@[simp] theorem metBy_nil (envs : ℕ → PollEnv) (n : ℕ) : metBy envs n [] = [] := rfl

@[simp] theorem metBy_cons (envs : ℕ → PollEnv) (n : ℕ) (event : ServiceEvent)
    (events : List ServiceEvent) :
    metBy envs n (event :: events) = (envs n, event) :: metBy envs (n + 1) events := by
  rw [metBy, List.zipIdx_cons, List.map_cons]
  rfl

/-- Nothing waits, and the drain is over. -/
theorem drainBody_nil {envs : ℕ → PollEnv} {n : ℕ} {events : List DiscoveryEvent}
    (hpending : service.pendingEvents = []) (hwaiting : service.waiting = []) :
    drainBody envs (n, service, events) = .done (drainError service.browseReceiver, service, events) := by
  rw [waiting] at hwaiting
  simp only [drainBody, pollEvent, hpending, drainError]
  rcases hreceiver : service.browseReceiver with - | ⟨capacity, waits, connected⟩
  · rfl
  · rw [hreceiver] at hwaiting
    obtain rfl : waits = [] := hwaiting
    cases connected with
    | true => rfl
    | false => rfl

/-- **What the application's loop does**, from any of its rounds: it takes the waiting events one after the
other, up to the first the registry reports nothing of. -/
theorem drain_from (envs : ℕ → PollEnv) (n : ℕ) (events : List DiscoveryEvent)
    (hpending : service.pendingEvents = []) {fuel : ℕ} (hfuel : service.waiting.length < fuel) :
    ∃ taken answers next error reported,
      Loop.run (drainBody envs) fuel (n, service, events) = some (error, next, events ++ reported) ∧
      Drained envs n service next taken answers ∧
      ((next.waiting = [] ∧ error = drainError service.browseReceiver ∧ answers = reported.map some) ∨
        (error = none ∧ answers = reported.map some ++ [none])) := by
  obtain ⟨fuel, rfl⟩ := Nat.exists_eq_succ_of_ne_zero (Nat.ne_zero_of_lt hfuel)
  induction hwaiting : service.waiting generalizing service n events fuel with
  | nil =>
    refine ⟨[], [], service, _, [], ?_, ?_, Or.inl ⟨hwaiting, rfl, rfl⟩⟩
    · rw [List.append_nil]
      exact Loop.run_succ_of_done (drainBody_nil hpending hwaiting)
    · refine ⟨rfl, rfl, rfl, ?_, hpending, rfl⟩
      rw [waiting] at hwaiting ⊢
      rcases service.browseReceiver with - | channel
      · rfl
      · rfl
  | cons event rest ih =>
    obtain ⟨channel, hreceiver, hevents⟩ : ∃ channel, service.browseReceiver = some channel ∧
        channel.events = event :: rest := by
      rw [waiting] at hwaiting
      rcases hreceiver : service.browseReceiver with - | channel
      · rw [hreceiver] at hwaiting
        cases hwaiting
      · rw [hreceiver] at hwaiting
        exact ⟨channel, rfl, hwaiting⟩
    have hpoll := pollEvent_cons hpending hreceiver hevents (envs n)
    rw [hwaiting] at hfuel
    generalize hreached : (⟨heard service.advertiser event,
      (service.registry.report service.advertiser.profile.deviceId (envs n, event)).2,
      some { channel with events := rest }, []⟩ : BrowsingService I) = reached at hpoll
    have hregistry : reached.registry =
        (service.registry.report service.advertiser.profile.deviceId (envs n, event)).2 := by
      rw [← hreached]
    have hprofile : reached.advertiser.profile = service.advertiser.profile := by
      rw [← hreached]
      exact heard_profile _ _
    have hrest : reached.waiting = rest := by
      rw [← hreached]
      rfl
    rcases hanswer : (service.registry.report service.advertiser.profile.deviceId
      (envs n, event)).1 with - | first
    · refine ⟨[event], [none], reached, none, [], ?_, ?_, Or.inr ⟨rfl, rfl⟩⟩
      · rw [List.append_nil]
        exact Loop.run_succ_of_done (by simp only [drainBody, hpoll, hanswer])
      · refine ⟨by rw [hwaiting, hrest]; rfl, by rw [metBy_cons, metBy_nil, Mealy.answers, hanswer]; rfl,
          by rw [metBy_cons, metBy_nil, Mealy.after, hregistry]; rfl, ?_, ?_, ?_⟩
        · rw [hreceiver, hrest, ← hreached]
          rfl
        · rw [← hreached]
        · rw [← hreached]
          rfl
    · obtain ⟨fuel, rfl⟩ := Nat.exists_eq_succ_of_ne_zero (Nat.ne_zero_of_lt (Nat.lt_of_succ_lt_succ hfuel))
      obtain ⟨taken, answers, next, error, reported, hrun, hdrained, hends⟩ :=
        @ih reached (n + 1) (events ++ [first]) (by rw [← hreached]) fuel
          (by rw [hrest]; exact Nat.lt_of_succ_lt_succ hfuel) hrest
      refine ⟨event :: taken, some first :: answers, next, error, first :: reported, ?_, ?_, ?_⟩
      · have hagain : drainBody envs (n, service, events) = .again (n + 1, reached, events ++ [first]) := by
          simp only [drainBody, hpoll, hanswer]
        rw [Loop.run_succ_of_again hagain, hrun, List.append_assoc]
        rfl
      · have hanswered := hdrained.answered
        have hafter := hdrained.registry
        rw [hprofile, hregistry] at hanswered hafter
        refine ⟨?_, ?_, ?_, ?_, hdrained.pending, ?_⟩
        · rw [hwaiting, List.cons_append, ← hdrained.took, hrest]
        · rw [metBy_cons, Mealy.answers, hanswer, hanswered]
        · rw [metBy_cons, Mealy.after, hafter]
        · rw [hdrained.receiver, hreceiver, ← hreached]
          rfl
        · rw [hdrained.advertiser, ← hreached]
          rfl
      · rcases hends with ⟨hover, herror, hall⟩ | ⟨herror, hall⟩
        · refine Or.inl ⟨hover, ?_, by rw [hall]; rfl⟩
          rw [herror, hreceiver, ← hreached]
          rfl
        · exact Or.inr ⟨herror, by rw [hall]; rfl⟩

/-- **A drain always ends, and takes the waiting events up to the first that changes nothing.** -/
theorem drain_eq (envs : ℕ → PollEnv) (hpending : service.pendingEvents = []) :
    ∃ taken answers next error reported, service.drain envs = some (error, next, reported) ∧
      Drained envs 0 service next taken answers ∧
      ((next.waiting = [] ∧ error = drainError service.browseReceiver ∧ answers = reported.map some) ∨
        (error = none ∧ answers = reported.map some ++ [none])) :=
  drain_from envs 0 [] hpending (Nat.lt_succ_of_le (Nat.le_add_left _ _))

end BrowsingService

end SynchroSonic
