import SynchroSonic.Discovery.ChangeLog
import SynchroSonic.Machine.Incumbent

/-!
# The address a device is kept under

`preferred_endpoint` lets an announced address replace the stored one only if it ranks strictly higher.
Between two removals of a device its stored address is therefore the first announced one of the highest
rank (`endpoint_of_run`). A device that announces another address or another port of the *same* rank is
kept under the old one, for as long as it is in the registry, and this is the only way in which the
registry does not follow it (`endpoint_followed_iff`).
-/

namespace SynchroSonic

namespace DeviceRegistry

/-- The address the device is kept under. -/
def endpoint? (deviceId : DeviceId) (registry : DeviceRegistry) : Option TransportEndpoint :=
  (registry.device? deviceId).bind DiscoveredDevice.endpoint

end DeviceRegistry

/-- The rank of an endpoint is that of its address. -/
def TransportEndpoint.rank (endpoint : TransportEndpoint) : ℕ ×ₗ ℕ :=
  endpointRank endpoint.address.ip

theorem preferredEndpoint_eq_settle (existing incoming : Option TransportEndpoint) :
    preferredEndpoint existing incoming =
      Incumbent.settle TransportEndpoint.rank existing incoming := by
  cases existing with
  | none => cases incoming with
    | none => rfl
    | some incoming => rfl
  | some existing => cases incoming with
    | none => rfl
    | some incoming => rfl

namespace DeviceRegistry

variable {registry : DeviceRegistry} {deviceId : DeviceId}

theorem endpoint?_insert {entry : RegistryEntry} (other : DeviceId) :
    (registry.insert deviceId entry).endpoint? other =
      if deviceId = other then entry.device.endpoint else registry.endpoint? other := by
  rw [endpoint?, device?_insert]
  split
  · rfl
  · rfl

/-- **An announcement challenges the stored address**, and that of no other device. -/
theorem endpoint?_upsert (nowUnixMs : ℕ) (now : Instant) (device : DiscoveredDevice)
    (other : DeviceId) :
    (registry.upsert nowUnixMs now device).2.endpoint? other =
      if device.id = other then
        Incumbent.settle TransportEndpoint.rank (registry.endpoint? device.id) device.endpoint
      else registry.endpoint? other := by
  rw [upsert]
  rcases hlookup : registry.devices.lookup device.id with - | entry
  · dsimp only
    have hstored : registry.endpoint? device.id = none := by
      rw [endpoint?, device?, hlookup, Option.map_none, Option.bind_none]
    rw [endpoint?_insert, hstored, Incumbent.settle_none_left]
  · dsimp only
    have hstored : registry.endpoint? device.id = entry.device.endpoint := by
      rw [endpoint?, device?, hlookup, Option.map_some, Option.bind_some]
    rw [endpoint?_insert, hstored, ← preferredEndpoint_eq_settle]
    rfl

/-- A look at an entry, expired or not, leaves the addresses as they are. -/
theorem endpoint?_pruneEntry (now : Instant) (other : DeviceId) :
    (registry.pruneEntry now deviceId).2.endpoint? other = registry.endpoint? other := by
  rcases pruneEntry_cases now deviceId registry with ⟨entry, hlookup, -, hprune⟩ | hprune
  · rw [hprune, endpoint?_insert]
    split
    next heq =>
      subst heq
      rw [endpoint?, device?, hlookup, Option.map_some, Option.bind_some]
      rfl
    · rfl
  · rw [hprune]

end DeviceRegistry

/-- The address an input announces for this device. -/
def RegistryInput.announced (deviceId : DeviceId) : RegistryInput → Option TransportEndpoint
  | .upsert _ _ device => if device.id = deviceId then device.endpoint else none
  | _ => none

namespace LoggedRegistry

/-- The call removes this device. -/
def Removes (deviceId : DeviceId) (logged : LoggedRegistry) : RegistryInput → Prop
  | .markRemovedByFullname order fullname =>
    (logged.registry.markRemovedByFullname order fullname).1 = some (.deviceRemoved deviceId fullname)
  | _ => False

variable {logged next : LoggedRegistry} {input : RegistryInput} {deviceId : DeviceId}

/-- **A call challenges the stored address with the announced one**, if it announces one. -/
theorem endpoint?_step (hkept : ¬logged.Removes deviceId input)
    (hstep : logged.step input = some next) :
    next.registry.endpoint? deviceId =
      Incumbent.settle TransportEndpoint.rank (logged.registry.endpoint? deviceId)
        (input.announced deviceId) := by
  cases input with
  | upsert nowUnixMs now device =>
    rw [eq_of_step hstep]
    refine (DeviceRegistry.endpoint?_upsert nowUnixMs now device deviceId).trans ?_
    rw [RegistryInput.announced]
    split
    next heq => rw [heq]
    · exact (Incumbent.settle_none_right _).symm
  | markRemovedByFullname order fullname =>
    refine Eq.trans ?_ (Incumbent.settle_none_right _).symm
    rw [eq_of_step hstep]
    show (logged.registry.markRemovedByFullname order fullname).2.endpoint? deviceId = _
    rw [Removes] at hkept
    unfold DeviceRegistry.markRemovedByFullname at hkept ⊢
    split
    next removed hfound =>
      -- the removed device is another one
      rw [hfound] at hkept
      have hne : removed ≠ deviceId := fun heq ↦ hkept (by rw [heq])
      rw [DeviceRegistry.endpoint?, DeviceRegistry.device?_remove, if_neg hne]
      rfl
    · rfl
  | pruneStale order now =>
    refine Eq.trans ?_ (Incumbent.settle_none_right _).symm
    refine step_invariant (I := fun reached ↦
      reached.registry.endpoint? deviceId = logged.registry.endpoint? deviceId)
      (fun reached change hmem hsame ↦ ?_) rfl hstep
    obtain ⟨pruned, -, rfl⟩ := List.mem_map.1 hmem
    exact (DeviceRegistry.endpoint?_pruneEntry (now pruned) deviceId).trans hsame

/-- **While a device stays in the registry**, its address is settled by the announcements since then. -/
theorem endpoint_of_run {inputs : List RegistryInput}
    (hkept : Transition.Along step (fun logged input ↦ ¬logged.Removes deviceId input) logged inputs)
    (hrun : Transition.run step logged inputs = some next) :
    next.registry.endpoint? deviceId =
      Incumbent.settled TransportEndpoint.rank (logged.registry.endpoint? deviceId)
        (inputs.filterMap (RegistryInput.announced deviceId)) := by
  induction inputs generalizing logged with
  | nil =>
    obtain rfl := Option.some.inj hrun
    rfl
  | cons input inputs ih =>
    obtain ⟨reached, hstep, hrun⟩ := Transition.run_cons.1 hrun
    rw [ih (hkept.2 reached hstep) hrun, endpoint?_step hkept.1 hstep, List.filterMap_cons]
    cases input.announced deviceId with
    | none => rw [Incumbent.settle_none_right]
    | some endpoint => rfl

/-- So it is an announced one, and no better one was announced. -/
theorem endpoint_best_of_run {inputs : List RegistryInput} {stored : TransportEndpoint}
    (hkept : Transition.Along step (fun logged input ↦ ¬logged.Removes deviceId input) logged inputs)
    (hrun : Transition.run step logged inputs = some next)
    (hstored : logged.registry.endpoint? deviceId = some stored) :
    ∃ kept ∈ stored :: inputs.filterMap (RegistryInput.announced deviceId),
      next.registry.endpoint? deviceId = some kept ∧
        ∀ announced ∈ stored :: inputs.filterMap (RegistryInput.announced deviceId),
          announced.rank ≤ kept.rank := by
  rw [endpoint_of_run hkept hrun, hstored]
  exact Incumbent.settled_some stored _

/-! ### Following an announcement -/

/-- After an announcement with an address the device is kept under that address, or the one it was kept
under before ranks strictly higher. -/
def EndpointFollowed (logged : LoggedRegistry) : RegistryInput → Prop
  | .upsert nowUnixMs now device => ∀ endpoint, device.endpoint = some endpoint →
    (logged.registry.upsert nowUnixMs now device).2.endpoint? device.id = some endpoint ∨
      ∃ stored, logged.registry.endpoint? device.id = some stored ∧
        endpointRank endpoint.address.ip < endpointRank stored.address.ip
  | _ => True

/-- The announced address is the stored one, or does not rank equal with it. -/
def RankDecides (logged : LoggedRegistry) : RegistryInput → Prop
  | .upsert _ _ device => ∀ endpoint, device.endpoint = some endpoint →
    ∀ stored, logged.registry.endpoint? device.id = some stored →
      endpointRank stored.address.ip = endpointRank endpoint.address.ip → stored = endpoint
  | _ => True

theorem endpointFollowed_iff (logged : LoggedRegistry) (input : RegistryInput) :
    logged.EndpointFollowed input ↔ logged.RankDecides input := by
  cases input with
  | upsert nowUnixMs now device =>
    refine forall_congr' fun endpoint ↦ forall_congr' fun hendpoint ↦ ?_
    rw [DeviceRegistry.endpoint?_upsert, if_pos rfl, hendpoint]
    exact Incumbent.settle_eq_or_outranked_iff
  | markRemovedByFullname order fullname => exact Iff.rfl
  | pruneStale order now => exact Iff.rfl

/-- **The registry follows a device to its new address** all along a history exactly when no announced
address ties with another stored one. -/
theorem endpoint_followed_iff (staleTimeout : Duration) (inputs : List RegistryInput) :
    Transition.Along step EndpointFollowed (new staleTimeout) inputs ↔
      Transition.Along step RankDecides (new staleTimeout) inputs := by
  have hsame : EndpointFollowed = RankDecides :=
    funext fun logged ↦ funext fun input ↦ propext (endpointFollowed_iff logged input)
  rw [hsame]

end LoggedRegistry

namespace Sample

/-- The receiver on this port. -/
def onPort (port : UInt16) : DiscoveredDevice :=
  { discovered 0xc0a8087f with endpoint := some ⟨discoveredId, ⟨.v4 0xc0a8087f, port⟩⟩ }

/-- A receiver falls silent and is marked stale. -/
def stale : List RegistryInput := [.upsert 1 0 (onPort 51700), .pruneStale [discoveredId] fun _ ↦ 50]

end Sample

namespace LoggedRegistry

/-- The receiver comes back on another port and is still kept under the port it has left. -/
theorem endpoint_not_followed :
    ¬∀ (staleTimeout : Duration) (inputs : List RegistryInput),
      Transition.Along step EndpointFollowed (new staleTimeout) inputs := by
  intro hall
  have hrun : (Transition.run step (new 30) Sample.stale).map (fun logged ↦
      logged.registry.endpoint? Sample.discoveredId) = some (Sample.onPort 51700).endpoint := by
    decide +kernel
  obtain ⟨reached, hrun, hstored⟩ := Option.map_eq_some_iff.1 hrun
  have hfollowed := Transition.holds_of_along
    (hall 30 (Sample.stale ++ [.upsert 2 60 (Sample.onPort 51701)])) hrun
  have hsame := (endpointFollowed_iff reached _).1 hfollowed _ rfl _ hstored rfl
  exact absurd hsame (by decide)

end LoggedRegistry

end SynchroSonic
