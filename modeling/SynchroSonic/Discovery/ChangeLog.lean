import SynchroSonic.Discovery.Registry
import SynchroSonic.Machine.Transition

/-!
# The discovery log

Whoever applies the registry's events to an empty state sees what the registry sees, up to the time a
device was last seen. An operation changes one entry at a time, with at most one event for each
(`DeviceRegistry.change`), and the event says everything about the entry (`Reports`); that is all the
agreement needs.

The number of `DeviceExpired` is bounded by a budget: an entry that is not marked may expire once, and
only an `upsert` takes the mark away.
-/

namespace SynchroSonic

namespace DeviceRegistry

/-- The device with this identifier, as the registry has it. -/
def device? (deviceId : DeviceId) (registry : DeviceRegistry) : Option DiscoveredDevice :=
  (registry.devices.lookup deviceId).map RegistryEntry.device

/-- Every device is kept under its own identifier. -/
def Keyed (registry : DeviceRegistry) : Prop :=
  ∀ (deviceId : DeviceId) (device : DiscoveredDevice), registry.device? deviceId = some device →
    device.id = deviceId

/-- The event tells what happened to every device. -/
def Reports (registry : DeviceRegistry) (event : Option DiscoveryEvent) (next : DeviceRegistry) :
    Prop :=
  ∀ deviceId : DeviceId, (next.device? deviceId).map DiscoveredDevice.unseen =
    ((event.bind (DiscoveryEvent.verdict deviceId)).getD (registry.device? deviceId)).map
      DiscoveredDevice.unseen

variable {registry next : DeviceRegistry} {deviceId : DeviceId} {entry : RegistryEntry}

/-- An entry that is put in shows its device. -/
theorem device?_insert (other : DeviceId) : (registry.insert deviceId entry).device? other =
    if deviceId = other then some entry.device else registry.device? other := by
  rw [device?, insert]
  split
  next heq =>
    subst heq
    rw [AList.lookup_insert, Option.map_some]
  next hne =>
    rw [AList.lookup_insert_ne (Ne.symm hne)]
    rfl

/-- An entry that is taken out shows none. -/
theorem device?_remove (other : DeviceId) : (registry.remove deviceId).device? other =
    if deviceId = other then none else registry.device? other := by
  rw [device?, remove]
  split
  next heq =>
    subst heq
    rw [AList.lookup_erase, Option.map_none]
  next hne =>
    rw [AList.lookup_erase_ne (Ne.symm hne)]
    rfl

/-- The devices stay under their ids. -/
theorem Keyed.insert (h : registry.Keyed) (hid : entry.device.id = deviceId) :
    (registry.insert deviceId entry).Keyed := by
  intro other device hdevice
  rw [device?_insert] at hdevice
  split at hdevice
  next heq =>
    obtain rfl := Option.some.inj hdevice
    exact hid.trans heq
  · exact h other device hdevice

/-- Also when one goes. -/
theorem Keyed.remove (h : registry.Keyed) : (registry.remove deviceId).Keyed := by
  intro other device hdevice
  rw [device?_remove] at hdevice
  split at hdevice
  · cases hdevice
  · exact h other device hdevice

/-- An entry is written and the event carries its device. -/
theorem reports_insert {event : DiscoveryEvent} (hid : entry.device.id = deviceId)
    (hevent : ∀ other : DeviceId, event.verdict other =
      if entry.device.id = other then some (some entry.device) else none) :
    Reports registry (some event) (registry.insert deviceId entry) := by
  intro other
  rw [device?_insert, Option.bind_some, hevent, hid]
  split
  · rfl
  · rfl

/-- An entry is written that differs only in the time. -/
theorem reports_suppressed
    (h : (registry.device? deviceId).map DiscoveredDevice.unseen = some entry.device.unseen) :
    Reports registry none (registry.insert deviceId entry) := by
  intro other
  rw [device?_insert, Option.bind_none, Option.getD_none]
  split
  next heq => exact heq ▸ h.symm
  · rfl

theorem reports_refl (registry : DeviceRegistry) : Reports registry none registry := fun _ ↦ rfl

/-- **An announcement is reported as what it does**: a new device, another one, or nothing but the time. -/
theorem reports_upsert (nowUnixMs : ℕ) (now : Instant) (device : DiscoveredDevice) :
    Reports registry (registry.upsert nowUnixMs now device).1
      (registry.upsert nowUnixMs now device).2 := by
  rw [upsert]
  rcases hlookup : registry.devices.lookup device.id with - | entry
  · dsimp only
    exact reports_insert rfl fun _ ↦ rfl
  · dsimp only
    rcases hsame : materiallySameDiscoveredDevice entry.device
        (mergeDiscoveredDevice entry.device { device with lastSeenUnixMs := nowUnixMs }) with - | -
    · exact reports_insert rfl fun _ ↦ rfl
    · refine reports_suppressed ?_
      rw [device?, hlookup, Option.map_some, Option.map_some]
      exact congrArg some (eq_of_beq hsame)

/-- A device is stored under its own id. -/
theorem keyed_upsert (h : registry.Keyed) (nowUnixMs : ℕ) (now : Instant)
    (device : DiscoveredDevice) : (registry.upsert nowUnixMs now device).2.Keyed := by
  rw [upsert]
  rcases hlookup : registry.devices.lookup device.id with - | entry
  · dsimp only
    exact h.insert rfl
  · dsimp only
    exact h.insert rfl

/-- A removal reports the one device it takes out, or nothing. -/
theorem reports_markRemovedByFullname (order : List DeviceId) (fullname : String) :
    Reports registry (registry.markRemovedByFullname order fullname).1
      (registry.markRemovedByFullname order fullname).2 := by
  unfold markRemovedByFullname
  split
  next deviceId hfound =>
    intro other
    rw [device?_remove, Option.bind_some, DiscoveryEvent.verdict]
    split
    · rfl
    · rfl
  · exact reports_refl registry

/-- It leaves the others under their ids. -/
theorem keyed_markRemovedByFullname (h : registry.Keyed) (order : List DeviceId)
    (fullname : String) : (registry.markRemovedByFullname order fullname).2.Keyed := by
  unfold markRemovedByFullname
  split
  · exact h.remove
  · exact h

/-- The entry that is looked at expires, or nothing happens. -/
theorem pruneEntry_cases (now : Instant) (deviceId : DeviceId) (registry : DeviceRegistry) :
    (∃ entry, registry.devices.lookup deviceId = some entry ∧ entry.markedStale = false ∧
        registry.pruneEntry now deviceId =
          (some (.deviceExpired entry.expire.device), registry.insert deviceId entry.expire)) ∨
      registry.pruneEntry now deviceId = (none, registry) := by
  rw [pruneEntry]
  rcases hlookup : registry.devices.lookup deviceId with - | entry
  · exact Or.inr rfl
  · rcases hexpired : entry.isExpired registry.staleTimeout now with - | -
    · exact Or.inr (by simp only [hexpired, Bool.false_eq_true, if_false])
    · refine Or.inl ⟨entry, rfl, ?_, by simp only [hexpired, if_true]⟩
      rw [RegistryEntry.isExpired, Bool.and_eq_true, Bool.not_eq_true'] at hexpired
      exact hexpired.1

/-- An entry that is pruned is marked, and reported as expired. -/
theorem reports_pruneEntry (h : registry.Keyed) (now : Instant) (deviceId : DeviceId) :
    Reports registry (registry.pruneEntry now deviceId).1 (registry.pruneEntry now deviceId).2 := by
  rcases pruneEntry_cases now deviceId registry with ⟨entry, hlookup, -, hprune⟩ | hprune
  · rw [hprune]
    exact reports_insert (h deviceId entry.device (by rw [device?, hlookup, Option.map_some]))
      fun _ ↦ rfl
  · rw [hprune]
    exact reports_refl registry

/-- Marked or not, the entry stays under its id. -/
theorem keyed_pruneEntry (h : registry.Keyed) (now : Instant) (deviceId : DeviceId) :
    (registry.pruneEntry now deviceId).2.Keyed := by
  rcases pruneEntry_cases now deviceId registry with ⟨entry, hlookup, -, hprune⟩ | hprune
  · rw [hprune]
    exact h.insert (h deviceId entry.device (by rw [device?, hlookup, Option.map_some]))
  · rw [hprune]
    exact h

/-! ### How often a device may expire -/

/-- The entry is there and not marked. -/
def expiryBudget (deviceId : DeviceId) (registry : DeviceRegistry) : ℕ :=
  if (registry.devices.lookup deviceId).any fun entry ↦ !entry.markedStale then 1 else 0

/-- A device can expire once at most before it is announced again. -/
theorem expiryBudget_le (deviceId : DeviceId) (registry : DeviceRegistry) :
    registry.expiryBudget deviceId ≤ 1 := by
  rw [expiryBudget]
  split
  · exact le_rfl
  · exact Nat.zero_le 1

/-- The budget depends on its own entry. -/
theorem expiryBudget_congr (h : next.devices.lookup deviceId = registry.devices.lookup deviceId) :
    next.expiryBudget deviceId = registry.expiryBudget deviceId := by
  rw [expiryBudget, expiryBudget, h]

end DeviceRegistry

/-- The event says that this device has expired. -/
def DiscoveryEvent.expires (deviceId : DeviceId) : DiscoveryEvent → Bool
  | .deviceExpired device => device.id == deviceId
  | _ => false

/-- How often the device has expired. -/
def expiries (deviceId : DeviceId) (events : List DiscoveryEvent) : ℕ :=
  events.countP (DiscoveryEvent.expires deviceId)

/-- Expiries are counted event by event. -/
@[simp] theorem expiries_append (deviceId : DeviceId) (events more : List DiscoveryEvent) :
    expiries deviceId (events ++ more) = expiries deviceId events + expiries deviceId more :=
  List.countP_append

/-! ### Changes -/

/-- A change of one entry: an `upsert`, a removal or a look at an entry while pruning. -/
inductive RegistryChange
  | upserted (nowUnixMs : ℕ) (now : Instant) (device : DiscoveredDevice)
  | removed (order : List DeviceId) (fullname : String)
  | pruned (now : Instant) (deviceId : DeviceId)

/-- The change is an `upsert` of this device. -/
def RegistryChange.upserts (deviceId : DeviceId) : RegistryChange → Bool
  | .upserted _ _ device => device.id == deviceId
  | _ => false

namespace DeviceRegistry

variable {registry : DeviceRegistry}

def change (registry : DeviceRegistry) : RegistryChange → Option DiscoveryEvent × DeviceRegistry
  | .upserted nowUnixMs now device => registry.upsert nowUnixMs now device
  | .removed order fullname => registry.markRemovedByFullname order fullname
  | .pruned now deviceId => registry.pruneEntry now deviceId

/-- Every change of the registry is reported. -/
theorem reports_change (h : registry.Keyed) (change : RegistryChange) :
    Reports registry (registry.change change).1 (registry.change change).2 := by
  cases change with
  | upserted nowUnixMs now device => exact reports_upsert nowUnixMs now device
  | removed order fullname => exact reports_markRemovedByFullname order fullname
  | pruned now deviceId => exact reports_pruneEntry h now deviceId

/-- Every change keeps the devices under their ids. -/
theorem keyed_change (h : registry.Keyed) (change : RegistryChange) :
    (registry.change change).2.Keyed := by
  cases change with
  | upserted nowUnixMs now device => exact keyed_upsert h nowUnixMs now device
  | removed order fullname => exact keyed_markRemovedByFullname h order fullname
  | pruned now deviceId => exact keyed_pruneEntry h now deviceId

/-- **A device that expires uses up its budget**, and only an `upsert` renews it. -/
theorem expiries_change (h : registry.Keyed) {deviceId : DeviceId} {change : RegistryChange}
    (hother : change.upserts deviceId = false) :
    expiries deviceId (registry.change change).1.toList +
        (registry.change change).2.expiryBudget deviceId ≤ registry.expiryBudget deviceId := by
  cases change with
  | upserted nowUnixMs now device =>
    have hne : deviceId ≠ device.id := fun heq ↦ ne_of_beq_false hother heq.symm
    show expiries deviceId (registry.upsert nowUnixMs now device).1.toList +
      (registry.upsert nowUnixMs now device).2.expiryBudget deviceId ≤ _
    rw [upsert]
    rcases hlookup : registry.devices.lookup device.id with - | entry
    · dsimp only
      refine le_of_eq ((Nat.zero_add _).trans (expiryBudget_congr ?_))
      exact AList.lookup_insert_ne hne
    · dsimp only
      rcases materiallySameDiscoveredDevice entry.device _ with - | -
      · refine le_of_eq ((Nat.zero_add _).trans (expiryBudget_congr ?_))
        exact AList.lookup_insert_ne hne
      · refine le_of_eq ((Nat.zero_add _).trans (expiryBudget_congr ?_))
        exact AList.lookup_insert_ne hne
  | removed order fullname =>
    show expiries deviceId (registry.markRemovedByFullname order fullname).1.toList +
      (registry.markRemovedByFullname order fullname).2.expiryBudget deviceId ≤ _
    unfold markRemovedByFullname
    split
    next removed hfound =>
      refine (Nat.zero_add _).trans_le ?_
      by_cases heq : removed = deviceId
      · subst heq
        rw [expiryBudget, remove, AList.lookup_erase]
        exact Nat.zero_le _
      · exact le_of_eq (expiryBudget_congr (AList.lookup_erase_ne (Ne.symm heq)))
    · exact le_of_eq (Nat.zero_add _)
  | pruned now pruned =>
    show expiries deviceId (registry.pruneEntry now pruned).1.toList +
      (registry.pruneEntry now pruned).2.expiryBudget deviceId ≤ _
    rcases pruneEntry_cases now pruned registry with ⟨entry, hlookup, hunmarked, hprune⟩ | hprune
    · have hid : entry.device.id = pruned :=
        h pruned entry.device (by rw [device?, hlookup, Option.map_some])
      -- marking an entry spends its budget, and only an upsert gives it back
      rw [hprune]
      by_cases heq : pruned = deviceId
      · subst heq
        rw [expiryBudget, expiryBudget, insert, AList.lookup_insert, hlookup]
        simp [expiries, DiscoveryEvent.expires, RegistryEntry.expire, hid, hunmarked]
      · have hnot : (entry.device.id == deviceId) = false := by
          rw [hid]
          exact beq_false_of_ne heq
        have hbudget : (registry.insert pruned entry.expire).expiryBudget deviceId =
            registry.expiryBudget deviceId :=
          expiryBudget_congr (AList.lookup_insert_ne (Ne.symm heq))
        have hcount : expiries deviceId [.deviceExpired entry.expire.device] = 0 :=
          List.countP_eq_zero.2 fun event hmem ↦ by
            obtain rfl := List.mem_singleton.1 hmem
            exact ne_true_of_eq_false hnot
        exact le_of_eq ((congrArg₂ (· + ·) hcount hbudget).trans (Nat.zero_add _))
    · rw [hprune]
      exact le_of_eq (Nat.zero_add _)

end DeviceRegistry

/-! ### A registry and its log -/

/-- A call of the registry, with the readings of its clocks. -/
inductive RegistryInput
  | upsert (nowUnixMs : ℕ) (now : Instant) (device : DiscoveredDevice)
  | markRemovedByFullname (order : List DeviceId) (fullname : String)
  | pruneStale (order : List DeviceId) (now : DeviceId → Instant)

/-- The call is an `upsert` of this device. -/
def RegistryInput.upserts (deviceId : DeviceId) : RegistryInput → Bool
  | .upsert _ _ device => device.id == deviceId
  | _ => false

/-- The registry with all events so far. -/
structure LoggedRegistry where
  registry : DeviceRegistry
  events : List DiscoveryEvent := []

namespace LoggedRegistry

def new (staleTimeout : Duration) : LoggedRegistry where
  registry := .new staleTimeout

/-- A walk through the registry meets every key once. -/
def WalkedBy (logged : LoggedRegistry) (order : List DeviceId) : Prop :=
  order.Perm logged.registry.devices.keys

instance (logged : LoggedRegistry) (order : List DeviceId) : Decidable (logged.WalkedBy order) :=
  inferInstanceAs (Decidable (order.Perm _))

/-- A call has returned these events. -/
def record (change : List DiscoveryEvent × DeviceRegistry) (logged : LoggedRegistry) :
    LoggedRegistry :=
  ⟨change.2, logged.events ++ change.1⟩

/-- One call. -/
def step (logged : LoggedRegistry) : RegistryInput → Option LoggedRegistry
  | .upsert nowUnixMs now device =>
    let (event, registry) := logged.registry.upsert nowUnixMs now device
    some (logged.record (event.toList, registry))
  | .markRemovedByFullname order fullname =>
    if logged.WalkedBy order then
      let (event, registry) := logged.registry.markRemovedByFullname order fullname
      some (logged.record (event.toList, registry))
    else none
  | .pruneStale order now =>
    if logged.WalkedBy order then some (logged.record (logged.registry.pruneStale order now))
    else none

/-- A single change. -/
def apply (logged : LoggedRegistry) (change : RegistryChange) : LoggedRegistry :=
  logged.record ((logged.registry.change change).1.toList, (logged.registry.change change).2)

end LoggedRegistry

/-- The changes a call is made of. -/
def RegistryInput.changes : RegistryInput → List RegistryChange
  | .upsert nowUnixMs now device => [.upserted nowUnixMs now device]
  | .markRemovedByFullname order fullname => [.removed order fullname]
  | .pruneStale order now => order.map fun deviceId ↦ .pruned (now deviceId) deviceId

namespace LoggedRegistry

variable {logged next : LoggedRegistry} {input : RegistryInput}

/-- A walk over the registry is a list of changes, one for each entry. -/
theorem record_pruneStale (order : List DeviceId) (now : DeviceId → Instant) :
    logged.record (logged.registry.pruneStale order now) =
      (order.map fun deviceId ↦ RegistryChange.pruned (now deviceId) deviceId).foldl apply logged := by
  have hfrom (order : List DeviceId) (pruned : List DiscoveryEvent × DeviceRegistry) :
      logged.record (order.foldl (DeviceRegistry.pruneRound now) pruned) =
        (order.map fun deviceId ↦ RegistryChange.pruned (now deviceId) deviceId).foldl apply
          (logged.record pruned) := by
    induction order generalizing pruned with
    | nil => rfl
    | cons deviceId order ih =>
      rw [List.foldl_cons, List.map_cons, List.foldl_cons]
      refine (ih _).trans (congrArg (List.foldl apply · _) ?_)
      exact congrArg (LoggedRegistry.mk _) (List.append_assoc _ _ _).symm
  refine (hfrom order ([], logged.registry)).trans (congrArg (List.foldl apply · _) ?_)
  exact congrArg (LoggedRegistry.mk _) (List.append_nil _)

/-- **A call is the sum of its changes.** -/
theorem eq_of_step (h : logged.step input = some next) : next = input.changes.foldl apply logged := by
  cases input with
  | upsert nowUnixMs now device => exact (Option.some.inj h).symm
  | markRemovedByFullname order fullname =>
    simp only [step] at h
    split at h
    · exact (Option.some.inj h).symm
    · cases h
  | pruneStale order now =>
    simp only [step] at h
    split at h
    · exact (Option.some.inj h).symm.trans (record_pruneStale order now)
    · cases h

/-- An input that announces no device brings no change that does. -/
theorem upserts_of_changes {deviceId : DeviceId} {change : RegistryChange}
    (hother : input.upserts deviceId = false) (hmem : change ∈ input.changes) :
    change.upserts deviceId = false := by
  cases input with
  | upsert nowUnixMs now device =>
    obtain rfl := List.mem_singleton.1 hmem
    exact hother
  | markRemovedByFullname order fullname =>
    obtain rfl := List.mem_singleton.1 hmem
    rfl
  | pruneStale order now =>
    obtain ⟨pruned, -, rfl⟩ := List.mem_map.1 hmem
    rfl

/-- What every change of a call keeps, the call keeps. -/
theorem step_invariant {I : LoggedRegistry → Prop} {logged next : LoggedRegistry}
    (hchange : ∀ logged, ∀ change ∈ input.changes, I logged → I (logged.apply change))
    (h : I logged) (hstep : logged.step input = some next) : I next := by
  rw [eq_of_step hstep]
  clear hstep
  generalize input.changes = changes at hchange
  induction changes generalizing logged with
  | nil => exact h
  | cons change changes ih =>
    exact ih (hchange logged change List.mem_cons_self h) fun logged change hmem ↦
      hchange logged change (List.mem_cons_of_mem _ hmem)

/-! ### The state that follows the log -/

/-- What an empty state makes of the events. -/
def state (logged : LoggedRegistry) : AppState :=
  logged.events.foldl AppState.applyDiscoveryEvent .new

/-- The state has what the registry has. -/
structure Followed (logged : LoggedRegistry) : Prop where
  keyed : logged.registry.Keyed
  listed : logged.state.Listed
  same : ∀ deviceId, (logged.state.device? deviceId).map DiscoveredDevice.unseen =
    (logged.registry.device? deviceId).map DiscoveredDevice.unseen

/-- Nothing is shown of an empty registry. -/
theorem followed_new (staleTimeout : Duration) : (new staleTimeout).Followed := by
  refine ⟨fun deviceId device hdevice ↦ ?_, AppState.listed_new, fun _ ↦ rfl⟩
  cases hdevice

/-- **Applying the event is enough.** -/
theorem Followed.apply (h : logged.Followed) (change : RegistryChange) :
    (logged.apply change).Followed := by
  have hkeyed := DeviceRegistry.keyed_change h.keyed change
  have hreports := DeviceRegistry.reports_change h.keyed change
  have hstate : (logged.apply change).state =
      (logged.registry.change change).1.toList.foldl AppState.applyDiscoveryEvent logged.state :=
    List.foldl_append
  refine ⟨hkeyed, ?_, fun deviceId ↦ ?_⟩
  · rw [hstate]
    rcases (logged.registry.change change).1 with - | event
    · exact h.listed
    · exact h.listed.applyDiscoveryEvent event
  · refine Eq.trans ?_ (hreports deviceId).symm
    rw [hstate]
    rcases (logged.registry.change change).1 with - | event
    · exact h.same deviceId
    · show ((logged.state.applyDiscoveryEvent event).device? deviceId).map _ = _
      rw [AppState.device?_applyDiscoveryEvent, Option.bind_some]
      rcases event.verdict deviceId with - | verdict
      · exact h.same deviceId
      · rfl

/-- **Every input keeps the state the registry's.** -/
theorem followed_step (h : logged.Followed) (hstep : logged.step input = some next) :
    next.Followed :=
  step_invariant (fun _ change _ hfollowed ↦ hfollowed.apply change) h hstep

/-- What is spent of a device's budget since the log was as long as `before`. -/
structure Spending (deviceId : DeviceId) (before : List DiscoveryEvent) (budget : ℕ)
    (logged : LoggedRegistry) : Prop where
  keyed : logged.registry.Keyed
  spent : ∃ emitted, logged.events = before ++ emitted ∧
    expiries deviceId emitted + logged.registry.expiryBudget deviceId ≤ budget

/-- **Between two announcements no budget grows**, whatever else happens. -/
theorem spending_step {deviceId : DeviceId} {before : List DiscoveryEvent} {budget : ℕ}
    (h : Spending deviceId before budget logged) (hother : input.upserts deviceId = false)
    (hstep : logged.step input = some next) : Spending deviceId before budget next := by
  refine step_invariant (I := Spending deviceId before budget) (fun logged change hmem h ↦ ?_) h hstep
  obtain ⟨hkeyed, emitted, hevents, hspent⟩ := h
  have hchange := DeviceRegistry.expiries_change hkeyed (upserts_of_changes hother hmem)
  refine ⟨DeviceRegistry.keyed_change hkeyed change,
    emitted ++ (logged.registry.change change).1.toList, ?_, ?_⟩
  · show logged.events ++ _ = _
    rw [hevents, List.append_assoc]
  · rw [expiries_append]
    exact (Nat.add_assoc _ _ _).trans_le ((Nat.add_le_add_left hchange _).trans hspent)

end LoggedRegistry

/-! ### The registry's own picture -/

/-- Read as maps from identifiers, both lists have the same devices, up to the time they were last
seen. -/
structure SameDevices (left right : List DiscoveredDevice) : Prop where
  left_nodup : (left.map DiscoveredDevice.id).Nodup
  right_nodup : (right.map DiscoveredDevice.id).Nodup
  same : ∀ deviceId, (KeyedList.get? DiscoveredDevice.id deviceId left).map DiscoveredDevice.unseen =
    (KeyedList.get? DiscoveredDevice.id deviceId right).map DiscoveredDevice.unseen

namespace DeviceRegistry

variable {registry : DeviceRegistry} {order : List DeviceId}

/-- The snapshot sorts the devices, and drops none. -/
theorem snapshot_perm (registry : DeviceRegistry) (order : List DeviceId) (nowUnixMs : ℕ) :
    (registry.snapshot order nowUnixMs).devices.Perm
      (order.filterMap fun deviceId ↦ registry.device? deviceId) :=
  List.mergeSort_perm _ _

/-- No device is in it twice. -/
theorem nodup_snapshot (h : registry.Keyed) (hwalk : order.Perm registry.devices.keys)
    (nowUnixMs : ℕ) :
    ((registry.snapshot order nowUnixMs).devices.map DiscoveredDevice.id).Nodup := by
  refine (((registry.snapshot_perm order nowUnixMs).map DiscoveredDevice.id).nodup_iff).2 ?_
  exact (KeyedList.keys_filterMap h order).nodup (hwalk.nodup_iff.2 registry.devices.nodupKeys)

/-- **The snapshot is the registry, read as a map.** -/
theorem get?_snapshot (h : registry.Keyed) (hwalk : order.Perm registry.devices.keys)
    (nowUnixMs : ℕ) (deviceId : DeviceId) :
    KeyedList.get? DiscoveredDevice.id deviceId (registry.snapshot order nowUnixMs).devices =
      registry.device? deviceId := by
  rw [KeyedList.get?_perm (registry.snapshot_perm order nowUnixMs) (nodup_snapshot h hwalk nowUnixMs)]
  refine KeyedList.get?_filterMap h fun hsome ↦ hwalk.mem_iff.2 (AList.lookup_isSome.1 ?_)
  rw [device?, Option.ne_none_iff_isSome, Option.isSome_map] at hsome
  exact hsome

/-- Two registries that differ in times alone have the same snapshot. -/
theorem sameDevices_of_reports {next : DeviceRegistry} {order' : List DeviceId}
    (h : registry.Keyed) (hnext : next.Keyed) (hreports : Reports registry none next)
    (hwalk : order.Perm registry.devices.keys) (hwalk' : order'.Perm next.devices.keys)
    (readMs readMs' : ℕ) :
    SameDevices (registry.snapshot order readMs).devices (next.snapshot order' readMs').devices := by
  refine ⟨nodup_snapshot h hwalk readMs, nodup_snapshot hnext hwalk' readMs', fun deviceId ↦ ?_⟩
  rw [get?_snapshot h hwalk, get?_snapshot hnext hwalk']
  exact (hreports deviceId).symm

end DeviceRegistry

namespace LoggedRegistry

/-- **The discovery log is faithful.** After every run of the registry, an empty state that has applied
the events lists the devices of the snapshot; an `upsert` without an event leaves the snapshot as it is;
and between two `upsert`s a device expires at most once. -/
theorem discovery_log_faithful (staleTimeout : Duration) (inputs : List RegistryInput)
    (final : LoggedRegistry)
    (hrun : Transition.run step (new staleTimeout) inputs = some final) :
    (∀ (order : List DeviceId) (nowUnixMs : ℕ), final.WalkedBy order →
      SameDevices (final.events.foldl AppState.applyDiscoveryEvent .new).discoveredDevices
        (final.registry.snapshot order nowUnixMs).devices) ∧
    (∀ (nowUnixMs : ℕ) (now : Instant) (device : DiscoveredDevice) (next : DeviceRegistry),
      final.registry.upsert nowUnixMs now device = (none, next) →
        ∀ (order order' : List DeviceId) (readMs readMs' : ℕ), final.WalkedBy order →
          order'.Perm next.devices.keys →
            SameDevices (final.registry.snapshot order readMs).devices
              (next.snapshot order' readMs').devices) ∧
    ∀ (deviceId : DeviceId) (before between : List RegistryInput) (mid : LoggedRegistry),
      inputs = before ++ between → Transition.run step (new staleTimeout) before = some mid →
        (∀ input ∈ between, input.upserts deviceId = false) →
          ∃ emitted, final.events = mid.events ++ emitted ∧ expiries deviceId emitted ≤ 1 := by
  have hfollowed {inputs : List RegistryInput} {reached : LoggedRegistry}
      (hrun : Transition.run step (new staleTimeout) inputs = some reached) : reached.Followed :=
    Transition.run_invariant (fun _ _ _ ↦ followed_step) (followed_new staleTimeout) hrun
  have hfinal := hfollowed hrun
  refine ⟨fun order nowUnixMs hwalk ↦ ?_, ?_, ?_⟩
  · refine ⟨hfinal.listed.nodup, DeviceRegistry.nodup_snapshot hfinal.keyed hwalk nowUnixMs,
      fun deviceId ↦ ?_⟩
    rw [DeviceRegistry.get?_snapshot hfinal.keyed hwalk]
    exact hfinal.same deviceId
  · intro nowUnixMs now device next hupsert order order' readMs readMs' hwalk hwalk'
    have hkeyed := DeviceRegistry.keyed_upsert hfinal.keyed nowUnixMs now device
    have hreports := @DeviceRegistry.reports_upsert final.registry nowUnixMs now device
    rw [hupsert] at hkeyed hreports
    exact DeviceRegistry.sameDevices_of_reports hfinal.keyed hkeyed hreports hwalk hwalk' readMs
      readMs'
  · intro deviceId before between mid hinputs hmid hother
    rw [hinputs] at hrun
    obtain ⟨reached, hreached, hbetween⟩ := Transition.run_append.1 hrun
    obtain rfl := Option.some.inj (hmid.symm.trans hreached)
    -- what may expire from here on is what the budget allows now
    have hstart : Spending deviceId mid.events (mid.registry.expiryBudget deviceId) mid :=
      ⟨(hfollowed hmid).keyed, [], (List.append_nil _).symm, (Nat.zero_add _).le⟩
    obtain ⟨-, emitted, hevents, hspent⟩ := Transition.run_invariant_along
      (fun _ _ _ h hother hstep ↦ spending_step h hother hstep) hstart
      (Transition.along_of_forall (fun input hmem _ ↦ hother input hmem) mid) hbetween
    refine ⟨emitted, hevents, (Nat.le_add_right _ _).trans (hspent.trans ?_)⟩
    exact DeviceRegistry.expiryBudget_le deviceId mid.registry

end LoggedRegistry

/-! ### A device that comes and goes -/

namespace Sample

def discoveredId : DeviceId := ⟨"device-1"⟩

/-- A receiver at this address. -/
def discovered (bits : BitVec 32) : DiscoveredDevice where
  id := discoveredId
  displayName := "Receiver"
  appVersion := "0.1.0"
  protocolVersion := discoveryProtocolVersion
  capabilities := .receiver
  availability := .available
  status := .reachable
  endpoint := some ⟨discoveredId, ⟨.v4 bits, 51700⟩⟩
  serviceFullname := "receiver._synchrosonic._tcp.local."
  lastSeenUnixMs := 0

/-- A device is found at a poor address, at a better one and there once more; then it is silent for
longer than the timeout of 30. -/
def silent : List RegistryInput :=
  [.upsert 1 0 (discovered 0xac110001), .upsert 2 10 (discovered 0xc0a8087f),
    .upsert 3 20 (discovered 0xc0a8087f), .pruneStale [discoveredId] fun _ ↦ 50,
    .pruneStale [discoveredId] fun _ ↦ 100]

end Sample

namespace LoggedRegistry

/-- The device is known to both sides when it has expired. -/
theorem discovery_log_faithful_silent :
    ∃ final : LoggedRegistry,
      Transition.run step (new 30) Sample.silent = some final ∧ final.events.length = 3 ∧
        SameDevices (final.events.foldl AppState.applyDiscoveryEvent .new).discoveredDevices
          (final.registry.snapshot [Sample.discoveredId] 4).devices := by
  have hrun : (Transition.run step (new 30) Sample.silent).map (fun logged ↦
      (logged.events.length, logged.registry.devices.keys)) = some (3, [Sample.discoveredId]) := by
    decide +kernel
  obtain ⟨final, hrun, hfinal⟩ := Option.map_eq_some_iff.1 hrun
  obtain ⟨hlength, hkeys⟩ := Prod.mk.inj hfinal
  obtain ⟨hsame, -, -⟩ := discovery_log_faithful 30 Sample.silent final hrun
  exact ⟨final, hrun, hlength, hsame [Sample.discoveredId] 4 (List.Perm.of_eq hkeys.symm)⟩

end LoggedRegistry

end SynchroSonic
