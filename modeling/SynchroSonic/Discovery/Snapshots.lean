import SynchroSonic.Discovery.ChangeLog
import SynchroSonic.Machine.StableSort

/-!
# Snapshots of equal registries

`snapshot` sorts by display name alone, and the sort is stable. So two devices of one name come out in
the order in which the walk through the hash map has met them, and the snapshot is determined by the
entries exactly if no two devices share a name (`snapshot_determined_iff`). The receiver that
`apply_discovery_snapshot` falls back on is then determined as well.
-/

namespace SynchroSonic

namespace DeviceRegistry

variable {registry : DeviceRegistry}

theorem displayLe_iff {left right : DiscoveredDevice} :
    displayLe left right = true ↔ left.displayName ≤ right.displayName := by
  rw [displayLe, Bool.not_eq_true', decide_eq_false_iff_not, String.not_lt]

theorem displayLe_trans (a b c : DiscoveredDevice) (hab : displayLe a b) (hbc : displayLe b c) :
    displayLe a c :=
  displayLe_iff.2 (String.le_trans (displayLe_iff.1 hab) (displayLe_iff.1 hbc))

theorem displayLe_total (a b : DiscoveredDevice) : displayLe a b || displayLe b a := by
  rw [Bool.or_eq_true, displayLe_iff, displayLe_iff]
  exact String.le_total a.displayName b.displayName

/-- No two devices have the same display name. -/
def NamesDiffer (registry : DeviceRegistry) : Prop :=
  ∀ deviceId deviceId' device device', registry.device? deviceId = some device →
    registry.device? deviceId' = some device' → device.displayName = device'.displayName →
      deviceId = deviceId'

/-- The devices a walk meets. -/
def walked (order : List DeviceId) (registry : DeviceRegistry) : List DiscoveredDevice :=
  order.filterMap fun deviceId ↦ registry.device? deviceId

theorem devices_snapshot (order : List DeviceId) (nowUnixMs : ℕ) :
    (registry.snapshot order nowUnixMs).devices = (registry.walked order).mergeSort displayLe := rfl

theorem mem_keys_of_device? {deviceId : DeviceId} {device : DiscoveredDevice}
    (h : registry.device? deviceId = some device) : deviceId ∈ registry.devices.keys := by
  obtain ⟨entry, hentry, -⟩ := Option.map_eq_some_iff.1 h
  exact AList.lookup_isSome.1 (by rw [hentry, Option.isSome_some])

theorem mem_walked_iff (h : registry.Keyed) {order : List DeviceId}
    (hwalk : order.Perm registry.devices.keys) {device : DiscoveredDevice} :
    device ∈ registry.walked order ↔ registry.device? device.id = some device := by
  rw [walked, List.mem_filterMap]
  constructor
  · rintro ⟨deviceId, -, hdevice⟩
    rwa [h deviceId device hdevice]
  · intro hdevice
    exact ⟨device.id, hwalk.mem_iff.2 (mem_keys_of_device? hdevice), hdevice⟩

/-- A list of the devices, in any order, is what some walk meets. -/
theorem walked_ids (h : registry.Keyed) {devices : List DiscoveredDevice}
    (hperm : devices.Perm (registry.walked registry.devices.keys)) :
    (devices.map DiscoveredDevice.id).Perm registry.devices.keys ∧
      registry.walked (devices.map DiscoveredDevice.id) = devices := by
  have hids : (registry.walked registry.devices.keys).map DiscoveredDevice.id =
      registry.devices.keys := by
    refine (KeyedList.keys_filterMap h registry.devices.keys).eq_of_length ?_
    rw [List.length_map]
    refine (List.length_filterMap_le _ _).antisymm (not_lt.1 fun hlt ↦ ?_)
    obtain ⟨deviceId, hmem, hnone⟩ := List.length_filterMap_lt_length_iff_exists.1 hlt
    have hsome := AList.lookup_isSome.2 hmem
    rw [Option.map_eq_none_iff.1 hnone] at hsome
    exact Bool.false_ne_true hsome
  refine ⟨(hperm.map DiscoveredDevice.id).trans (List.Perm.of_eq hids), ?_⟩
  have hfound : ∀ device ∈ devices, registry.device? device.id = some device :=
    fun device hmem ↦ (mem_walked_iff h (List.Perm.refl _)).1 (hperm.mem_iff.1 hmem)
  clear hperm
  induction devices with
  | nil => rfl
  | cons device devices ih =>
    obtain ⟨hdevice, hdevices⟩ := List.forall_mem_cons.1 hfound
    rw [walked, List.map_cons, List.filterMap_cons, hdevice]
    exact congrArg (List.cons device) (ih hdevices)

theorem namesDiffer_iff (h : registry.Keyed) : registry.NamesDiffer ↔
    ∀ a ∈ registry.walked registry.devices.keys, ∀ b ∈ registry.walked registry.devices.keys,
      displayLe a b → displayLe b a → a = b := by
  have hmem {device : DiscoveredDevice} : device ∈ registry.walked registry.devices.keys ↔
      registry.device? device.id = some device := mem_walked_iff h (List.Perm.refl _)
  constructor
  · intro hdiffer a ha b hb hab hba
    have hname := String.le_antisymm (displayLe_iff.1 hab) (displayLe_iff.1 hba)
    have hid := hdiffer a.id b.id a b (hmem.1 ha) (hmem.1 hb) hname
    exact Option.some.inj ((hmem.1 ha).symm.trans (hid ▸ hmem.1 hb))
  · intro hanti deviceId deviceId' device device' hdevice hdevice' hname
    obtain rfl := h deviceId device hdevice
    obtain rfl := h deviceId' device' hdevice'
    have hsame := hanti device (hmem.2 hdevice) device' (hmem.2 hdevice')
      (displayLe_iff.2 (hname ▸ String.le_refl _)) (displayLe_iff.2 (hname ▸ String.le_refl _))
    rw [hsame]

/-- **The walk leaves no trace in the snapshot** exactly if no two devices share a name. -/
theorem devices_snapshot_unordered_iff (h : registry.Keyed) :
    (∀ order order' nowUnixMs nowUnixMs', order.Perm registry.devices.keys →
        order'.Perm registry.devices.keys →
          (registry.snapshot order nowUnixMs).devices = (registry.snapshot order' nowUnixMs').devices) ↔
      registry.NamesDiffer := by
  have hnodup : (registry.walked registry.devices.keys).Nodup :=
    List.Nodup.of_map DiscoveredDevice.id
      ((KeyedList.keys_filterMap h registry.devices.keys).nodup registry.devices.nodupKeys)
  rw [namesDiffer_iff h,
    ← StableSort.mergeSort_unordered_iff displayLe_trans displayLe_total hnodup]
  constructor
  · intro hall devices devices' hperm hperm'
    obtain ⟨hwalk, hwalked⟩ := walked_ids h hperm
    obtain ⟨hwalk', hwalked'⟩ := walked_ids h hperm'
    have hsame := hall _ _ 0 0 hwalk hwalk'
    rwa [devices_snapshot, devices_snapshot, hwalked, hwalked'] at hsame
  · intro hall order order' nowUnixMs nowUnixMs' hwalk hwalk'
    exact hall _ _ (hwalk.filterMap _) (hwalk'.filterMap _)

/-! ### Two registries with the same entries -/

/-- Both have the same entry under every identifier. -/
def SameEntries (left right : DeviceRegistry) : Prop :=
  ∀ deviceId, left.devices.lookup deviceId = right.devices.lookup deviceId

variable {left right : DeviceRegistry}

theorem SameEntries.keys_perm (h : left.SameEntries right) :
    left.devices.keys.Perm right.devices.keys := by
  refine (List.perm_ext_iff_of_nodup left.devices.nodupKeys right.devices.nodupKeys).2 fun deviceId ↦ ?_
  have hleft : (left.devices.lookup deviceId).isSome ↔ deviceId ∈ left.devices.keys :=
    AList.lookup_isSome
  rw [h deviceId] at hleft
  exact hleft.symm.trans AList.lookup_isSome

theorem SameEntries.snapshot_eq (h : left.SameEntries right) (order : List DeviceId)
    (nowUnixMs : ℕ) : left.snapshot order nowUnixMs = right.snapshot order nowUnixMs := by
  rw [snapshot, snapshot]
  simp only [h _]

/-- The snapshots of both, on all walks, list the same devices, and any state picks the same receiver
from them. -/
def SnapshotsAgree (left right : DeviceRegistry) : Prop :=
  ∀ order order' nowUnixMs nowUnixMs', order.Perm left.devices.keys →
    order'.Perm right.devices.keys →
      (left.snapshot order nowUnixMs).devices = (right.snapshot order' nowUnixMs').devices ∧
        ∀ state : AppState,
          (state.applyDiscoverySnapshot (left.snapshot order nowUnixMs)).selectedReceiverDeviceId =
            (state.applyDiscoverySnapshot
              (right.snapshot order' nowUnixMs')).selectedReceiverDeviceId

theorem snapshotsAgree_iff (h : left.Keyed) (hsame : left.SameEntries right) :
    left.SnapshotsAgree right ↔ left.NamesDiffer := by
  rw [← devices_snapshot_unordered_iff h]
  constructor
  · intro hagree order order' nowUnixMs nowUnixMs' hwalk hwalk'
    rw [hsame.snapshot_eq order' nowUnixMs']
    exact (hagree order order' nowUnixMs nowUnixMs' hwalk (hwalk'.trans hsame.keys_perm)).1
  · intro hall order order' nowUnixMs nowUnixMs' hwalk hwalk'
    have hdevices : (left.snapshot order nowUnixMs).devices =
        (right.snapshot order' nowUnixMs').devices := by
      rw [hall order order' nowUnixMs nowUnixMs' hwalk (hwalk'.trans hsame.keys_perm.symm),
        hsame.snapshot_eq order' nowUnixMs']
    refine ⟨hdevices, fun state ↦ ?_⟩
    rw [AppState.applyDiscoverySnapshot, AppState.applyDiscoverySnapshot, hdevices]

end DeviceRegistry

namespace LoggedRegistry

theorem keyed_of_run {staleTimeout : Duration} {inputs : List RegistryInput} {logged : LoggedRegistry}
    (hrun : Transition.run step (new staleTimeout) inputs = some logged) : logged.registry.Keyed :=
  (Transition.run_invariant (fun _ _ _ ↦ followed_step) (followed_new staleTimeout) hrun).keyed

/-- **The snapshot is a function of the registry's contents**, whatever history and hash order are behind
them, exactly if no two devices share a display name. -/
theorem snapshot_determined_iff (staleTimeout : Duration) (inputs : List RegistryInput)
    (left : LoggedRegistry) (right : DeviceRegistry)
    (hleft : Transition.run step (new staleTimeout) inputs = some left)
    (hsame : left.registry.SameEntries right) :
    left.registry.SnapshotsAgree right ↔ left.registry.NamesDiffer :=
  DeviceRegistry.snapshotsAgree_iff (keyed_of_run hleft) hsame

end LoggedRegistry

namespace Sample

/-- Another machine that has kept the default name. -/
def namesake : DiscoveredDevice :=
  { discovered 0xc0a80880 with
    id := ⟨"device-2"⟩
    serviceFullname := "receiver-2._synchrosonic._tcp.local." }

/-- A machine with a name of its own. -/
def kitchen : DiscoveredDevice := { namesake with displayName := "Kitchen" }

end Sample

namespace LoggedRegistry

/-- Two machines with names of their own, heard of in either order. -/
theorem snapshot_determined_kitchen :
    ∃ left right : LoggedRegistry,
      Transition.run step (new 30)
          [.upsert 1 0 (Sample.discovered 0xc0a8087f), .upsert 2 10 Sample.kitchen] = some left ∧
        Transition.run step (new 30)
          [.upsert 2 10 Sample.kitchen, .upsert 1 0 (Sample.discovered 0xc0a8087f)] = some right ∧
        left.registry.SnapshotsAgree right.registry := by
  have hleft : (Transition.run step (new 30)
      [.upsert 1 0 (Sample.discovered 0xc0a8087f), .upsert 2 10 Sample.kitchen]).map (fun logged ↦
        (logged.registry.devices.entries, logged.registry.walked logged.registry.devices.keys)) =
      some ([⟨Sample.kitchen.id, ⟨{ Sample.kitchen with lastSeenUnixMs := 2 }, 10, false⟩⟩,
          ⟨Sample.discoveredId, ⟨{ Sample.discovered 0xc0a8087f with lastSeenUnixMs := 1 }, 0, false⟩⟩],
        [{ Sample.kitchen with lastSeenUnixMs := 2 },
          { Sample.discovered 0xc0a8087f with lastSeenUnixMs := 1 }]) := by
    rfl
  have hright : (Transition.run step (new 30)
      [.upsert 2 10 Sample.kitchen, .upsert 1 0 (Sample.discovered 0xc0a8087f)]).map (fun logged ↦
        logged.registry.devices.entries) =
      some [⟨Sample.discoveredId, ⟨{ Sample.discovered 0xc0a8087f with lastSeenUnixMs := 1 }, 0, false⟩⟩,
        ⟨Sample.kitchen.id, ⟨{ Sample.kitchen with lastSeenUnixMs := 2 }, 10, false⟩⟩] := by
    rfl
  obtain ⟨left, hrun, hfound⟩ := Option.map_eq_some_iff.1 hleft
  obtain ⟨right, hrun', hentries'⟩ := Option.map_eq_some_iff.1 hright
  obtain ⟨hentries, hwalked⟩ := Prod.mk.inj hfound
  have hsame : left.registry.SameEntries right.registry := fun deviceId ↦ AList.perm_lookup (by
    rw [hentries, hentries']
    exact List.Perm.swap _ _ [])
  refine ⟨left, right, hrun, hrun', (snapshot_determined_iff 30 _ left right.registry hrun hsame).2 ?_⟩
  rw [DeviceRegistry.namesDiffer_iff (keyed_of_run hrun), hwalked]
  decide +kernel

/-- Two machines with the default name: the snapshot tells in which order the walk met them. -/
theorem snapshot_not_determined :
    ¬∀ (staleTimeout : Duration) (inputs : List RegistryInput) (left : LoggedRegistry)
      (right : DeviceRegistry), Transition.run step (new staleTimeout) inputs = some left →
        left.registry.SameEntries right → left.registry.SnapshotsAgree right := by
  intro hall
  have hrun : (Transition.run step (new 30)
      [.upsert 1 0 (Sample.discovered 0xc0a8087f), .upsert 2 10 Sample.namesake]).map (fun logged ↦
        (logged.registry.device? Sample.discoveredId, logged.registry.device? Sample.namesake.id)) =
      some (some { Sample.discovered 0xc0a8087f with lastSeenUnixMs := 1 },
        some { Sample.namesake with lastSeenUnixMs := 2 }) := by
    decide +kernel
  obtain ⟨left, hrun, hdevices⟩ := Option.map_eq_some_iff.1 hrun
  obtain ⟨hfirst, hsecond⟩ := Prod.mk.inj hdevices
  have hdiffer := (DeviceRegistry.snapshotsAgree_iff (keyed_of_run hrun) fun _ ↦ rfl).1
    (hall 30 _ left left.registry hrun fun _ ↦ rfl)
  exact absurd (hdiffer _ _ _ _ hfirst hsecond rfl) (by decide)

end LoggedRegistry

end SynchroSonic
