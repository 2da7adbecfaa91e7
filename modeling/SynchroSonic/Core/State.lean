import SynchroSonic.Core.Models
import SynchroSonic.Machine.KeyedList

/-!
# Discovered devices and the application state

What discovery knows of a device, the events in which it says so, and the part of `AppState` those events
change. The state keeps two vectors about the same devices; both are written by the same searches.
-/

namespace SynchroSonic

/-- `DISCOVERY_PROTOCOL_VERSION`. -/
def discoveryProtocolVersion : UInt16 := 1

/-- `DeviceStatus`. -/
inductive DeviceStatus
  | discovered
  | resolving
  | receiverStarting
  | receiverListening
  | reachable
  | connecting
  | connected
  | unavailable
  | stale
  | selfDevice
  | incompatibleVersion
  deriving DecidableEq, Repr

/-- `DeviceCapabilities`. -/
structure DeviceCapabilities where
  supportsSender : Bool
  supportsReceiver : Bool
  supportsLocalOutput : Bool
  supportsBluetoothOutput : Bool
  deriving DecidableEq, Repr

namespace DeviceCapabilities

/-- `DeviceCapabilities::sender`. -/
def sender : DeviceCapabilities := ⟨true, false, true, false⟩

/-- `DeviceCapabilities::receiver`. -/
def receiver : DeviceCapabilities := ⟨false, true, true, false⟩

/-- `DeviceCapabilities::sender_receiver`. -/
def senderReceiver : DeviceCapabilities := ⟨true, true, true, false⟩

end DeviceCapabilities

/-- `DeviceAvailability`. -/
inductive DeviceAvailability
  | available
  | busy
  | unavailable
  deriving DecidableEq, Repr

/-- `DiscoveredDevice`. -/
structure DiscoveredDevice where
  id : DeviceId
  displayName : String
  appVersion : String
  protocolVersion : UInt16
  capabilities : DeviceCapabilities
  availability : DeviceAvailability
  status : DeviceStatus
  endpoint : Option TransportEndpoint
  serviceFullname : String
  lastSeenUnixMs : ℕ
  deriving DecidableEq, Repr

namespace DiscoveredDevice

def isReceiverConnectable (device : DiscoveredDevice) : Bool :=
  device.capabilities.supportsReceiver && device.availability == .available
    && device.endpoint.isSome
    && (device.status == .reachable || device.status == .connecting || device.status == .connected)

/-- The device without the time at which it was last seen. -/
def unseen (device : DiscoveredDevice) : DiscoveredDevice := { device with lastSeenUnixMs := 0 }

end DiscoveredDevice

/-- `DiscoveryEvent`. -/
inductive DiscoveryEvent
  | deviceDiscovered (device : DiscoveredDevice)
  | deviceUpdated (device : DiscoveredDevice)
  | deviceRemoved (deviceId : DeviceId) (serviceFullname : String)
  | deviceExpired (device : DiscoveredDevice)
  deriving DecidableEq, Repr

/-- `DiscoverySnapshot`. -/
structure DiscoverySnapshot where
  devices : List DiscoveredDevice := []
  updatedAtUnixMs : ℕ := 0
  deriving DecidableEq, Repr

/-- `DeviceState`. -/
structure DeviceState where
  id : DeviceId
  displayName : String
  status : DeviceStatus
  deriving DecidableEq, Repr

/-- What is shown of a device. -/
def DiscoveredDevice.deviceState (device : DiscoveredDevice) : DeviceState :=
  ⟨device.id, device.displayName, device.status⟩

/-- The part of `AppState` that discovery reads and writes. -/
structure AppState where
  selectedReceiverDeviceId : Option DeviceId := none
  devices : List DeviceState := []
  discoveredDevices : List DiscoveredDevice := []
  deriving DecidableEq, Repr

namespace AppState

/-- `AppState::new`. -/
def new : AppState := {}

def upsertDiscoveredDevice (device : DiscoveredDevice) (state : AppState) : AppState :=
  { state with
    discoveredDevices := KeyedList.put DiscoveredDevice.id device state.discoveredDevices
    devices := KeyedList.put DeviceState.id device.deviceState state.devices }

def reconcileSelectedReceiver (state : AppState) : AppState :=
  let selectedIsValid :=
    (state.selectedReceiverDeviceId.map fun selectedId ↦
      state.discoveredDevices.any fun device ↦
        device.id == selectedId && device.isReceiverConnectable).getD false
  if selectedIsValid then state
  else { state with
    selectedReceiverDeviceId :=
      (state.discoveredDevices.find? DiscoveredDevice.isReceiverConnectable).map
        DiscoveredDevice.id }

/-- The first half of `apply_discovery_event`. -/
def changed (state : AppState) : DiscoveryEvent → AppState
  | .deviceDiscovered device | .deviceUpdated device => state.upsertDiscoveredDevice device
  | .deviceRemoved deviceId _ => { state with
      discoveredDevices := KeyedList.delete DiscoveredDevice.id deviceId state.discoveredDevices
      devices := KeyedList.delete DeviceState.id deviceId state.devices }
  | .deviceExpired device => state.upsertDiscoveredDevice device

def applyDiscoveryEvent (state : AppState) (event : DiscoveryEvent) : AppState :=
  (state.changed event).reconcileSelectedReceiver

def applyDiscoverySnapshot (state : AppState) (snapshot : DiscoverySnapshot) : AppState :=
  reconcileSelectedReceiver { state with
    discoveredDevices := snapshot.devices
    devices := snapshot.devices.map DiscoveredDevice.deviceState }

/-- `select_receiver_device`: whether the device could be selected, and the state after that. -/
def selectReceiverDevice (state : AppState) (deviceId : DeviceId) : Bool × AppState :=
  if state.discoveredDevices.any fun device ↦
      device.id == deviceId && device.isReceiverConnectable then
    (true, { state with selectedReceiverDeviceId := some deviceId })
  else (false, state)

/-! ### What an event does to the vectors -/

variable {state : AppState} {event : DiscoveryEvent}

@[simp] theorem discoveredDevices_reconcile :
    state.reconcileSelectedReceiver.discoveredDevices = state.discoveredDevices := by
  unfold reconcileSelectedReceiver
  dsimp only
  split
  · rfl
  · rfl

@[simp] theorem devices_reconcile : state.reconcileSelectedReceiver.devices = state.devices := by
  unfold reconcileSelectedReceiver
  dsimp only
  split
  · rfl
  · rfl

end AppState

/-- What an event says about the device with this identifier, if anything. -/
def DiscoveryEvent.verdict (deviceId : DeviceId) : DiscoveryEvent → Option (Option DiscoveredDevice)
  | .deviceDiscovered device | .deviceUpdated device | .deviceExpired device =>
    if device.id = deviceId then some (some device) else none
  | .deviceRemoved removed _ => if removed = deviceId then some none else none

namespace AppState

variable {state : AppState} {event : DiscoveryEvent}

/-- The device with this identifier, as the state has it. -/
def device? (deviceId : DeviceId) (state : AppState) : Option DiscoveredDevice :=
  KeyedList.get? DiscoveredDevice.id deviceId state.discoveredDevices

/-- **An event has the last word** on the device it names, and no other is touched. -/
theorem device?_applyDiscoveryEvent (deviceId : DeviceId) :
    (state.applyDiscoveryEvent event).device? deviceId =
      (event.verdict deviceId).getD (state.device? deviceId) := by
  rw [applyDiscoveryEvent, device?, discoveredDevices_reconcile]
  have hput (device : DiscoveredDevice) :
      KeyedList.get? DiscoveredDevice.id deviceId
          (KeyedList.put DiscoveredDevice.id device state.discoveredDevices) =
        (if device.id = deviceId then some (some device) else none).getD
          (state.device? deviceId) := by
    rw [KeyedList.get?_put]
    split
    · rfl
    · rfl
  cases event with
  | deviceDiscovered device => exact hput device
  | deviceUpdated device => exact hput device
  | deviceExpired device => exact hput device
  | deviceRemoved removed fullname =>
    refine (KeyedList.get?_delete removed).trans ?_
    rw [DiscoveryEvent.verdict]
    split
    · rfl
    · rfl

/-- No device is listed twice, and the two vectors list the same devices in the same order. -/
structure Listed (state : AppState) : Prop where
  nodup : (state.discoveredDevices.map DiscoveredDevice.id).Nodup
  shown : state.devices = state.discoveredDevices.map DiscoveredDevice.deviceState

theorem listed_new : new.Listed := ⟨List.nodup_nil, rfl⟩

theorem Listed.applyDiscoveryEvent (h : state.Listed) (event : DiscoveryEvent) :
    (state.applyDiscoveryEvent event).Listed := by
  have hput (device : DiscoveredDevice) : (state.upsertDiscoveredDevice device).Listed := by
    refine ⟨KeyedList.nodup_put h.nodup, ?_⟩
    rw [upsertDiscoveredDevice, h.shown]
    exact (KeyedList.map_put fun _ ↦ rfl).symm
  have hchanged : (state.changed event).Listed := by
    cases event with
    | deviceDiscovered device => exact hput device
    | deviceUpdated device => exact hput device
    | deviceExpired device => exact hput device
    | deviceRemoved deviceId fullname =>
      refine ⟨KeyedList.nodup_delete h.nodup, ?_⟩
      rw [changed, h.shown]
      exact (KeyedList.map_delete fun _ ↦ rfl).symm
  refine ⟨?_, ?_⟩
  · rw [AppState.applyDiscoveryEvent, discoveredDevices_reconcile]
    exact hchanged.nodup
  · rw [AppState.applyDiscoveryEvent, devices_reconcile, discoveredDevices_reconcile]
    exact hchanged.shown

/-! ### The selected receiver -/

/-- A device with this identifier can be connected to. -/
def Connectable (state : AppState) (deviceId : DeviceId) : Prop :=
  ∃ device ∈ state.discoveredDevices, device.id = deviceId ∧ device.isReceiverConnectable = true

theorem any_eq_true_iff_connectable {deviceId : DeviceId} :
    (state.discoveredDevices.any fun device ↦
      device.id == deviceId && device.isReceiverConnectable) = true ↔ state.Connectable deviceId := by
  simp only [List.any_eq_true, Bool.and_eq_true, beq_iff_eq, Connectable]

/-- A receiver is selected exactly when one can be connected to, and then it is one of those. -/
structure Selects (state : AppState) : Prop where
  isSome_iff : state.selectedReceiverDeviceId.isSome = true ↔
    ∃ device ∈ state.discoveredDevices, device.isReceiverConnectable = true
  connectable : ∀ deviceId, state.selectedReceiverDeviceId = some deviceId → state.Connectable deviceId

theorem selects_new : new.Selects where
  isSome_iff := iff_of_false Bool.false_ne_true fun ⟨_, hmem, _⟩ ↦ absurd hmem List.not_mem_nil
  connectable _ h := nomatch h

/-- A valid selection stays. -/
theorem reconcile_of_connectable {deviceId : DeviceId}
    (hselected : state.selectedReceiverDeviceId = some deviceId) (h : state.Connectable deviceId) :
    state.reconcileSelectedReceiver = state := by
  rw [reconcileSelectedReceiver, hselected, Option.map_some, Option.getD_some,
    any_eq_true_iff_connectable.2 h]
  exact if_pos rfl

/-- **Reconciling makes the selection right**, whatever it was. -/
theorem selects_reconcile (state : AppState) : state.reconcileSelectedReceiver.Selects := by
  have hconnectable (deviceId : DeviceId) :
      state.reconcileSelectedReceiver.selectedReceiverDeviceId = some deviceId →
        state.Connectable deviceId := by
    rw [reconcileSelectedReceiver]
    split
    next hvalid =>
      intro hselected
      rw [hselected, Option.map_some, Option.getD_some] at hvalid
      exact any_eq_true_iff_connectable.1 hvalid
    · intro hselected
      obtain ⟨device, hfound, rfl⟩ := Option.map_eq_some_iff.1 hselected
      exact ⟨device, List.mem_of_find?_eq_some hfound, rfl, List.find?_some hfound⟩
  refine ⟨⟨fun hsome ↦ ?_, ?_⟩, fun deviceId hselected ↦ ?_⟩
  · obtain ⟨deviceId, hdeviceId⟩ := Option.isSome_iff_exists.1 hsome
    obtain ⟨device, hmem, -, hdevice⟩ := hconnectable deviceId hdeviceId
    exact ⟨device, by rwa [discoveredDevices_reconcile], hdevice⟩
  · rw [discoveredDevices_reconcile]
    intro hexists
    rw [reconcileSelectedReceiver]
    split
    next hvalid =>
      rcases hselection : state.selectedReceiverDeviceId with - | deviceId
      · rw [hselection] at hvalid
        cases hvalid
      · rfl
    · rw [Option.isSome_map, List.find?_isSome]
      exact hexists
  · rw [Connectable, discoveredDevices_reconcile]
    exact hconnectable deviceId hselected

theorem Selects.selectReceiverDevice (h : state.Selects) (deviceId : DeviceId) :
    (state.selectReceiverDevice deviceId).2.Selects := by
  rw [AppState.selectReceiverDevice]
  split
  next hvalid =>
    obtain ⟨device, hmem, hid, hdevice⟩ := any_eq_true_iff_connectable.1 hvalid
    refine ⟨iff_of_true rfl ⟨device, hmem, hdevice⟩, fun selected hselected ↦ ?_⟩
    obtain rfl := Option.some.inj hselected
    exact ⟨device, hmem, hid, hdevice⟩
  · exact h

/-! ### Runs -/

/-- What discovery and the user do to the device views. -/
inductive DeviceOp
  | applyDiscoverySnapshot (snapshot : DiscoverySnapshot)
  | applyDiscoveryEvent (event : DiscoveryEvent)
  | selectReceiverDevice (deviceId : DeviceId)
  deriving DecidableEq, Repr

def apply (state : AppState) : DeviceOp → AppState
  | .applyDiscoverySnapshot snapshot => state.applyDiscoverySnapshot snapshot
  | .applyDiscoveryEvent event => state.applyDiscoveryEvent event
  | .selectReceiverDevice deviceId => (state.selectReceiverDevice deviceId).2

/-- A snapshot lists no device twice. -/
def DeviceOp.Distinct : DeviceOp → Prop
  | .applyDiscoverySnapshot snapshot => (snapshot.devices.map DiscoveredDevice.id).Nodup
  | .applyDiscoveryEvent _ | .selectReceiverDevice _ => True

instance : (op : DeviceOp) → Decidable op.Distinct
  | .applyDiscoverySnapshot _ => inferInstanceAs (Decidable (List.Nodup _))
  | .applyDiscoveryEvent _ | .selectReceiverDevice _ => .isTrue trivial

/-- The device views agree with each other, and the selection with them. -/
structure Coherent (state : AppState) : Prop where
  listed : state.Listed
  selects : state.Selects

theorem Coherent.apply (h : state.Coherent) {op : DeviceOp} (hdistinct : op.Distinct) :
    (state.apply op).Coherent := by
  cases op with
  | applyDiscoverySnapshot snapshot =>
    refine ⟨⟨?_, ?_⟩, selects_reconcile _⟩
    · show ((reconcileSelectedReceiver _).discoveredDevices.map _).Nodup
      rw [discoveredDevices_reconcile]
      exact hdistinct
    · show (reconcileSelectedReceiver _).devices = (reconcileSelectedReceiver _).discoveredDevices.map _
      rw [discoveredDevices_reconcile, devices_reconcile]
  | applyDiscoveryEvent event => exact ⟨h.listed.applyDiscoveryEvent event, selects_reconcile _⟩
  | selectReceiverDevice deviceId =>
    refine ⟨?_, h.selects.selectReceiverDevice deviceId⟩
    rw [AppState.apply, AppState.selectReceiverDevice]
    split
    · exact ⟨h.listed.nodup, h.listed.shown⟩
    · exact h.listed

/-- **A selection that is still connectable stays**, unless the user selects. -/
theorem selected_apply {op : DeviceOp} (hop : ∀ deviceId, op ≠ .selectReceiverDevice deviceId)
    {deviceId : DeviceId} (hselected : state.selectedReceiverDeviceId = some deviceId)
    (hstill : (state.apply op).Connectable deviceId) :
    (state.apply op).selectedReceiverDeviceId = some deviceId := by
  have hreconciled {next : AppState} (hnext : next.selectedReceiverDeviceId = some deviceId)
      (h : next.reconcileSelectedReceiver.Connectable deviceId) :
      next.reconcileSelectedReceiver.selectedReceiverDeviceId = some deviceId := by
    rw [Connectable, discoveredDevices_reconcile] at h
    rw [reconcile_of_connectable hnext h, hnext]
  cases op with
  | applyDiscoverySnapshot snapshot => exact hreconciled hselected hstill
  | applyDiscoveryEvent event =>
    refine hreconciled ?_ hstill
    cases event with
    | _ => exact hselected
  | selectReceiverDevice selected => exact absurd rfl (hop selected)

/-- **The device views stay coherent.** After any sequence of snapshots without repeated identifiers, events
and selections by the user: no device is discovered twice, the devices shown are the discovered ones in
the same order, and a receiver is selected exactly if one can be connected to, namely one of those. The
next operation does not change a selection that it leaves connectable, unless it is a selection itself. -/
theorem device_views_coherent (ops : List DeviceOp) (hdistinct : ∀ op ∈ ops, op.Distinct) :
    (ops.foldl apply new).Coherent ∧
      ∀ (op : DeviceOp) (deviceId : DeviceId), (∀ selected, op ≠ .selectReceiverDevice selected) →
        (ops.foldl apply new).selectedReceiverDeviceId = some deviceId →
        ((ops.foldl apply new).apply op).Connectable deviceId →
        ((ops.foldl apply new).apply op).selectedReceiverDeviceId = some deviceId := by
  refine ⟨?_, fun op deviceId hop hselected hstill ↦ selected_apply hop hselected hstill⟩
  exact List.foldlRecOn (motive := Coherent) ops apply ⟨listed_new, selects_new⟩
    fun _ hcoherent op hop ↦ hcoherent.apply (hdistinct op hop)

end AppState

namespace Sample

/-- A receiver that can be connected to. -/
def connectableReceiver (name : String) : DiscoveredDevice where
  id := ⟨name⟩
  displayName := name
  appVersion := "0.1.11"
  protocolVersion := discoveryProtocolVersion
  capabilities := .receiver
  availability := .available
  status := .reachable
  endpoint := some ⟨⟨name⟩, ⟨.v4 0xc0a8087f, 51700⟩⟩
  serviceFullname := name ++ "._synchrosonic._tcp.local."
  lastSeenUnixMs := 0

/-- Two receivers are found, the user picks the second one, and the first one goes. -/
def twoReceivers : List AppState.DeviceOp :=
  [.applyDiscoverySnapshot ⟨[connectableReceiver "Kitchen", connectableReceiver "Studio"], 1⟩,
    .selectReceiverDevice ⟨"Studio"⟩, .applyDiscoveryEvent (.deviceRemoved ⟨"Kitchen"⟩ "")]

end Sample

/-- The second receiver stays selected. -/
theorem AppState.device_views_coherent_two_receivers :
    (Sample.twoReceivers.foldl AppState.apply .new).Coherent ∧
      (Sample.twoReceivers.foldl AppState.apply .new).selectedReceiverDeviceId = some ⟨"Studio"⟩ :=
  ⟨(device_views_coherent Sample.twoReceivers (by decide)).1, by decide⟩

end SynchroSonic
