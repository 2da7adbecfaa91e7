import SynchroSonic.Core.Error
import SynchroSonic.Discovery.Service

/-!
# Reading an advertisement

`discovered_device_from_resolved`: what an observer makes of a service that mDNS has resolved. Every
property is read by a parser of its own, and a missing or unreadable one has a default, so reading never
fails.

The TXT pairs of a profile are read back as the profile wrote them (`advertisement_read_back`), and the
observer can connect to what it reads exactly when the profile receives, is available, announces an
address another machine could use, and is not the observer's own.
-/

namespace SynchroSonic

/-! ### What mDNS hands over -/

/-- `ResolvedService`. -/
structure ResolvedService where
  /-- `get_fullname`. -/
  fullname : String
  /-- `get_property_val_str`: the value of a TXT key. -/
  propertyValStr : String → Option String
  /-- `get_addresses`, in the order in which the hash set gives them. -/
  addresses : List IpAddr
  /-- `get_port`. -/
  port : UInt16

/-- The service has every one of these TXT pairs, exactly these addresses and this port. -/
structure ResolvedService.Carries (service : ResolvedService) (pairs : List (String × String))
    (announced : Finset IpAddr) (port : UInt16) : Prop where
  properties : ∀ pair ∈ pairs, service.propertyValStr pair.1 = some pair.2
  addresses : ∀ address, address ∈ service.addresses ↔ address ∈ announced
  port : service.port = port

/-! ### The parsers -/

/-- `ReceiverAdvertisementState`. -/
inductive ReceiverAdvertisementState
  | idle
  | starting
  | listening
  | unavailable
  deriving DecidableEq, Repr

/-- `str::parse::<u16>`: decimal digits, with a plus sign before them if there is one. -/
def parseU16 (value : String) : Option UInt16 :=
  let digits := if value.toList.head? = some '+' then value.toList.tail else value.toList
  if digits.isEmpty || !digits.all Char.isDigit then none
  else if Nat.ofDigitChars 10 digits 0 < UInt16.size then
    some (UInt16.ofNat (Nat.ofDigitChars 10 digits 0))
  else none

example : parseU16 "+0042" = some 42 ∧ parseU16 "65536" = none ∧ parseU16 "-1" = none := by decide

def txtBool (service : ResolvedService) (key : String) : Bool :=
  ((service.propertyValStr key).map fun value ↦
    value == "true" || value == "1" || value == "yes" || value == "on").getD false

def parseReceiverState (value : Option String) : ReceiverAdvertisementState :=
  let value := value.getD receiverStateIdle
  if value = receiverStateListening then .listening
  else if value = receiverStateStarting then .starting
  else if value = receiverStateUnavailable then .unavailable
  else .idle

def parseAvailability (value : String) : DeviceAvailability :=
  if value = "available" then .available
  else if value = "busy" then .busy
  else .unavailable

def deriveDeviceStatus (deviceId localDeviceId : DeviceId) (protocolVersion : UInt16)
    (supportsReceiver : Bool) (availability : DeviceAvailability) (hasEndpoint : Bool)
    (receiverState : ReceiverAdvertisementState) : DeviceStatus :=
  if deviceId = localDeviceId then .selfDevice
  else if protocolVersion ≠ discoveryProtocolVersion then .incompatibleVersion
  else if availability = .unavailable then .unavailable
  else if !supportsReceiver then .discovered
  else
    match receiverState, hasEndpoint with
    | .starting, _ => .receiverStarting
    | .listening, true => .reachable
    | .listening, false => .receiverListening
    | .unavailable, _ => .unavailable
    | .idle, true => .reachable
    | .idle, false => .resolving

def discoveredDeviceFromResolved (nowUnixMs : ℕ) (service : ResolvedService)
    (localDeviceId : DeviceId) : Except DiscoveryError DiscoveredDevice :=
  let fullname := service.fullname
  let deviceId : DeviceId :=
    ⟨((service.propertyValStr txtDeviceId).filter (!·.isEmpty)).getD fullname⟩
  let displayName := ((service.propertyValStr txtDeviceName).filter (!·.isEmpty)).getD fullname
  let protocolVersion := ((service.propertyValStr txtProtocolVersion).bind parseU16).getD 0
  let appVersion := (service.propertyValStr txtAppVersion).getD "unknown"
  let supportsReceiver := txtBool service txtReceiver
  let availability := parseAvailability ((service.propertyValStr txtAvailability).getD "available")
  let receiverState := parseReceiverState (service.propertyValStr txtReceiverState)
  let endpoint :=
    if supportsReceiver then selectPreferredEndpoint deviceId service.addresses service.port
    else none
  let status := deriveDeviceStatus deviceId localDeviceId protocolVersion supportsReceiver
    availability endpoint.isSome receiverState
  .ok
    { id := deviceId
      displayName
      appVersion
      protocolVersion
      capabilities :=
        { supportsSender := txtBool service txtSender
          supportsReceiver
          supportsLocalOutput := txtBool service txtLocalOutput
          supportsBluetoothOutput := txtBool service txtBluetooth }
      availability
      status
      endpoint
      serviceFullname := fullname
      lastSeenUnixMs := nowUnixMs }

/-! ### Every parser reads back what was written -/

/-- The digits of a number are read as that number. -/
theorem parseU16_toString (n : UInt16) : parseU16 (toString n.toNat) = some n := by
  have hchars : (toString n.toNat).toList = Nat.toDigits 10 n.toNat := Nat.toList_repr
  have hall : (Nat.toDigits 10 n.toNat).all Char.isDigit = true :=
    List.all_eq_true.mpr fun _ hmem ↦ Nat.isDigit_of_mem_toDigits (by omega) (by omega) hmem
  have hread : Nat.ofDigitChars 10 (Nat.toDigits 10 n.toNat) 0 = n.toNat :=
    Nat.ofDigitChars_toDigits (by omega) (by omega)
  -- a plus sign is not a digit, so the digits are taken as they are
  have hplus : (Nat.toDigits 10 n.toNat).head? ≠ some '+' := fun h ↦
    absurd (List.all_eq_true.mp hall '+' (List.mem_of_mem_head? h)) (by decide)
  have hempty : (Nat.toDigits 10 n.toNat).isEmpty = false :=
    List.isEmpty_eq_false_iff.mpr Nat.toDigits_ne_nil
  have hbound : n.toNat < UInt16.size := n.toNat_lt_size
  simp only [parseU16, hchars, if_neg hplus, hempty, hall, hread, if_pos hbound, Bool.not_true,
    Bool.or_self, Bool.false_eq_true, if_false, UInt16.ofNat_toNat]

@[simp] theorem parseAvailability_availabilityTxt (availability : DeviceAvailability) :
    parseAvailability (availabilityTxt availability) = availability := by
  cases availability <;> decide

theorem txtBool_of_carried {service : ResolvedService} {key : String} {flag : Bool}
    (h : service.propertyValStr key = some (toString flag)) : txtBool service key = flag := by
  rw [txtBool, h]
  cases flag <;> decide

/-- A receiver that is not unavailable writes a state in which it is reachable. -/
theorem parseReceiverState_receiverStateTxt {availability : DeviceAvailability}
    (h : availability ≠ .unavailable) :
    parseReceiverState (some (receiverStateTxt true availability)) = .listening := by
  cases availability with
  | available | busy => decide
  | unavailable => exact absurd rfl h

/-! ### Which address is chosen -/

section Chosen

variable {addresses : List IpAddr} {address : IpAddr}

/-- The chosen address is a candidate, and none ranks above it. -/
theorem selectPreferredIpAddress_spec (h : selectPreferredIpAddress addresses = some address) :
    address ∈ addresses ∧ isRemoteSelectionCandidate address = true ∧
      ∀ other ∈ addresses, isRemoteSelectionCandidate other = true →
        endpointRank other ≤ endpointRank address := by
  have hmem : address ∈ addresses.filter isRemoteSelectionCandidate :=
    List.mem_reverse.mp (List.argmax_mem h)
  obtain ⟨hannounced, hcandidate⟩ := List.mem_filter.mp hmem
  refine ⟨hannounced, hcandidate, ?_⟩
  intro other hother hother'
  exact List.le_of_mem_argmax (List.mem_reverse.mpr (List.mem_filter.mpr ⟨hother, hother'⟩)) h

/-- One is chosen as soon as there is a candidate. -/
theorem selectPreferredIpAddress_isSome_iff : (selectPreferredIpAddress addresses).isSome = true ↔
    ∃ address ∈ addresses, isRemoteSelectionCandidate address = true := by
  rw [Option.isSome_iff_ne_none, selectPreferredIpAddress, Ne, List.argmax_eq_none,
    List.reverse_eq_nil_iff, List.filter_eq_nil_iff]
  simp only [not_forall, not_not, exists_prop]

end Chosen

/-! ### Which services can be connected to -/

section Status

variable {deviceId localDeviceId : DeviceId} {protocolVersion : UInt16}
  {supportsReceiver hasEndpoint : Bool} {availability : DeviceAvailability}
  {receiverState : ReceiverAdvertisementState}

/-- The status lets others connect to another device of the same version that listens at an address,
or may do so. -/
theorem deriveDeviceStatus_connectable_iff {status : DeviceStatus}
    (hstatus : status = deriveDeviceStatus deviceId localDeviceId protocolVersion supportsReceiver
      availability hasEndpoint receiverState) :
    (status = .reachable ∨ status = .connecting ∨ status = .connected) ↔
      deviceId ≠ localDeviceId ∧ protocolVersion = discoveryProtocolVersion ∧
        availability ≠ .unavailable ∧ supportsReceiver = true ∧ hasEndpoint = true ∧
        (receiverState = .listening ∨ receiverState = .idle) := by
  subst hstatus
  unfold deriveDeviceStatus
  split_ifs with hself hversion havailability hreceiver
  · simp [hself]
  · simp [hversion]
  · simp [havailability]
  · simp_all
  · cases receiverState <;> cases hasEndpoint <;> simp_all

end Status

section Resolved

variable {nowUnixMs : ℕ} {service : ResolvedService} {observer : DeviceId} {device : DiscoveredDevice}

/-- A receiver's endpoint is the best of its addresses. -/
theorem endpoint_of_resolved
    (hdevice : discoveredDeviceFromResolved nowUnixMs service observer = .ok device) :
    device.endpoint = if device.capabilities.supportsReceiver then
      selectPreferredEndpoint device.id service.addresses service.port else none := by
  cases hdevice
  rfl

/-- What makes a resolved service one that can be connected to. -/
theorem isReceiverConnectable_of_resolved
    (hdevice : discoveredDeviceFromResolved nowUnixMs service observer = .ok device) :
    device.isReceiverConnectable = true ↔
      device.capabilities.supportsReceiver = true ∧ device.availability = .available ∧
        (∃ address ∈ service.addresses, isRemoteSelectionCandidate address = true) ∧
        device.id ≠ observer ∧ device.protocolVersion = discoveryProtocolVersion ∧
        (parseReceiverState (service.propertyValStr txtReceiverState) = .listening ∨
          parseReceiverState (service.propertyValStr txtReceiverState) = .idle) := by
  have hstatus : device.status = deriveDeviceStatus device.id observer device.protocolVersion
      device.capabilities.supportsReceiver device.availability device.endpoint.isSome
      (parseReceiverState (service.propertyValStr txtReceiverState)) := by
    cases hdevice
    rfl
  have hendpoint (hreceiver : device.capabilities.supportsReceiver = true) :
      device.endpoint.isSome = true ↔
        ∃ address ∈ service.addresses, isRemoteSelectionCandidate address = true := by
    rw [endpoint_of_resolved hdevice, if_pos hreceiver, selectPreferredEndpoint, Option.isSome_map,
      selectPreferredIpAddress_isSome_iff]
  simp only [DiscoveredDevice.isReceiverConnectable, Bool.and_eq_true, Bool.or_eq_true, beq_iff_eq,
    or_assoc, deriveDeviceStatus_connectable_iff hstatus]
  constructor
  · rintro ⟨⟨⟨hreceiver, havailable⟩, hsome⟩, hother, hversion, -, -, -, hstate⟩
    exact ⟨hreceiver, havailable, (hendpoint hreceiver).mp hsome, hother, hversion, hstate⟩
  · rintro ⟨hreceiver, havailable, hcandidate, hother, hversion, hstate⟩
    have hsome := (hendpoint hreceiver).mpr hcandidate
    refine ⟨⟨⟨hreceiver, havailable⟩, hsome⟩, hother, hversion, ?_, hreceiver, hsome, hstate⟩
    rw [havailable]
    decide

/-- What one connects to is a candidate among the addresses, and none ranks above it. -/
theorem endpoint_of_isReceiverConnectable
    (hdevice : discoveredDeviceFromResolved nowUnixMs service observer = .ok device)
    (h : device.isReceiverConnectable = true) :
    ∃ address ∈ service.addresses, isRemoteSelectionCandidate address = true ∧
      (∀ other ∈ service.addresses, isRemoteSelectionCandidate other = true →
        endpointRank other ≤ endpointRank address) ∧
      device.endpoint = some ⟨device.id, ⟨address, service.port⟩⟩ := by
  obtain ⟨hreceiver, -, hcandidate, -⟩ := (isReceiverConnectable_of_resolved hdevice).mp h
  obtain ⟨address, haddress⟩ := Option.isSome_iff_exists.mp
    (selectPreferredIpAddress_isSome_iff.mpr hcandidate)
  obtain ⟨hmem, hself, hbest⟩ := selectPreferredIpAddress_spec haddress
  refine ⟨address, hmem, hself, hbest, ?_⟩
  rw [endpoint_of_resolved hdevice, if_pos hreceiver, selectPreferredEndpoint, haddress,
    Option.map_some]

end Resolved

/-! ### A profile is read back -/

section ReadBack

variable {profile : LocalDiscoveryProfile} {announced : Finset IpAddr} {port : UInt16}
  {service : ResolvedService}

/-- A text that is not empty stands against the default. -/
theorem getD_filter_of_ne_empty {value : String} (h : value ≠ "") (default : String) :
    ((some value).filter (!·.isEmpty)).getD default = value := by
  have hempty : (!value.isEmpty) = true := by
    rw [Bool.not_eq_true', ← Bool.not_eq_true, String.isEmpty_iff]
    exact h
  simp only [Option.filter, hempty, if_true, Option.getD_some]

/-- The fields of the record that the profile has too are the profile's. -/
theorem read_back_fields (hcarries : service.Carries (txtProperties profile) announced port)
    (hid : profile.deviceId.value ≠ "") (hname : profile.deviceName ≠ "") (observer : DeviceId)
    (nowUnixMs : ℕ) :
    ∃ device, discoveredDeviceFromResolved nowUnixMs service observer = .ok device ∧
      device.id = profile.deviceId ∧ device.displayName = profile.deviceName ∧
      device.appVersion = profile.appVersion ∧
      device.protocolVersion = discoveryProtocolVersion ∧
      device.capabilities = profile.capabilities ∧
      device.availability = profile.availability := by
  have hpairs := hcarries.properties
  simp only [txtProperties, List.forall_mem_cons] at hpairs
  obtain ⟨-, hdeviceId, hdeviceName, happ, hversion, hsender, hreceiver, hbluetooth, hlocal,
    havailability, -, -⟩ := hpairs
  refine ⟨_, rfl, ?_, ?_, ?_, ?_, ?_, ?_⟩
  · show DeviceId.mk _ = profile.deviceId
    rw [hdeviceId, getD_filter_of_ne_empty hid]
  · show Option.getD _ _ = profile.deviceName
    rw [hdeviceName, getD_filter_of_ne_empty hname]
  · show Option.getD _ _ = profile.appVersion
    rw [happ, Option.getD_some]
  · show Option.getD _ _ = discoveryProtocolVersion
    rw [hversion, Option.bind_some, parseU16_toString, Option.getD_some]
  · show DeviceCapabilities.mk _ _ _ _ = profile.capabilities
    rw [txtBool_of_carried hsender, txtBool_of_carried hreceiver, txtBool_of_carried hlocal,
      txtBool_of_carried hbluetooth]
  · show parseAvailability _ = profile.availability
    rw [havailability, Option.getD_some, parseAvailability_availabilityTxt]

/-- The receiver state says nothing that the flag and the availability do not say. -/
theorem connectable_of_carried_iff {observer : DeviceId} {nowUnixMs : ℕ} {device : DiscoveredDevice}
    (hcarries : service.Carries (txtProperties profile) announced port)
    (hdevice : discoveredDeviceFromResolved nowUnixMs service observer = .ok device)
    (hid : device.id = profile.deviceId) (hversion : device.protocolVersion = discoveryProtocolVersion)
    (hcapabilities : device.capabilities = profile.capabilities)
    (havailability : device.availability = profile.availability) :
    device.isReceiverConnectable = true ↔
      profile.capabilities.supportsReceiver = true ∧ profile.availability = .available ∧
        (∃ address ∈ announced, isRemoteSelectionCandidate address = true) ∧
        profile.deviceId ≠ observer := by
  have hread := hcarries.properties (txtReceiverState,
    receiverStateTxt profile.capabilities.supportsReceiver profile.availability)
    (by simp [txtProperties])
  have hne : DeviceAvailability.available ≠ .unavailable := by decide
  rw [isReceiverConnectable_of_resolved hdevice, hid, hversion, hcapabilities, havailability, hread]
  simp only [hcarries.addresses, true_and]
  constructor
  · rintro ⟨hreceiver, havailable, hcandidate, hother, -⟩
    exact ⟨hreceiver, havailable, hcandidate, hother⟩
  · rintro ⟨hreceiver, havailable, hcandidate, hother⟩
    refine ⟨hreceiver, havailable, hcandidate, hother, .inl ?_⟩
    rw [hreceiver, havailable]
    exact parseReceiverState_receiverStateTxt hne

/-- **What a device announces is what an observer reads.** The identity, the name, the versions, the
flags and the availability come back as they were written, and the observer can connect exactly to
another device that receives, is available and has an address of use to it. It then connects to the best
of these addresses, at the announced port. -/
theorem advertisement_read_back
    (hcarries : service.Carries (txtProperties profile) announced port)
    (hid : profile.deviceId.value ≠ "") (hname : profile.deviceName ≠ "") (observer : DeviceId)
    (nowUnixMs : ℕ) :
    ∃ device, discoveredDeviceFromResolved nowUnixMs service observer = .ok device ∧
      (device.id = profile.deviceId ∧ device.displayName = profile.deviceName ∧
        device.appVersion = profile.appVersion ∧
        device.protocolVersion = discoveryProtocolVersion ∧
        device.capabilities = profile.capabilities ∧
        device.availability = profile.availability) ∧
      (device.isReceiverConnectable = true ↔
        profile.capabilities.supportsReceiver = true ∧ profile.availability = .available ∧
          (∃ address ∈ announced, isRemoteSelectionCandidate address = true) ∧
          profile.deviceId ≠ observer) ∧
      (device.isReceiverConnectable = true →
        ∃ address ∈ announced, isRemoteSelectionCandidate address = true ∧
          (∀ other ∈ announced, isRemoteSelectionCandidate other = true →
            endpointRank other ≤ endpointRank address) ∧
          device.endpoint = some ⟨profile.deviceId, ⟨address, port⟩⟩) := by
  obtain ⟨device, hdevice, hdeviceId, hdisplay, happ, hversion, hcapabilities, havailability⟩ :=
    read_back_fields hcarries hid hname observer nowUnixMs
  have hconnectable_iff := connectable_of_carried_iff hcarries hdevice hdeviceId hversion
    hcapabilities havailability
  refine ⟨device, hdevice, ⟨hdeviceId, hdisplay, happ, hversion, hcapabilities, havailability⟩,
    hconnectable_iff, ?_⟩
  intro hconnectable
  obtain ⟨address, hmem, hcandidate, hbest, hendpoint⟩ :=
    endpoint_of_isReceiverConnectable hdevice hconnectable
  rw [hdeviceId, hcarries.port] at hendpoint
  refine ⟨address, (hcarries.addresses address).mp hmem, hcandidate, ?_, hendpoint⟩
  intro other hother
  exact hbest other ((hcarries.addresses other).mpr hother)

end ReadBack

/-! ### A receiver that is found -/

/-- A receiver that announces itself at two addresses, of which only one is of use to others. -/
def livingRoom : LocalDiscoveryProfile where
  deviceId := ⟨"synchrosonic-living-room"⟩
  deviceName := "Living Room"
  appVersion := "0.1.10"
  capabilities := .senderReceiver
  availability := .available
  port := 51700

def resolvedLivingRoom : ResolvedService where
  fullname := "Living Room._synchrosonic._tcp.local."
  propertyValStr key := (txtProperties livingRoom).lookup key
  addresses := [.v4 0x7f000001, .v4 0xc0a80114]
  port := 51700

theorem resolvedLivingRoom_carries :
    resolvedLivingRoom.Carries (txtProperties livingRoom) {.v4 0x7f000001, .v4 0xc0a80114} 51700 where
  properties := by decide
  addresses address := by simp [resolvedLivingRoom]
  port := rfl

/-- The receiver is read with its name, and can be connected to. -/
theorem advertisement_read_back_livingRoom :
    ∃ device, discoveredDeviceFromResolved 0 resolvedLivingRoom ⟨"kitchen"⟩ = .ok device ∧
      device.displayName = "Living Room" ∧ device.isReceiverConnectable = true := by
  obtain ⟨device, hdevice, hfields, hconnectable, -⟩ :=
    advertisement_read_back resolvedLivingRoom_carries (by decide) (by decide) ⟨"kitchen"⟩ 0
  exact ⟨device, hdevice, hfields.2.1, hconnectable.mpr ⟨by decide, by decide, by decide, by decide⟩⟩

/-! ### What is asked of the service -/

/-- Others can connect to what `sync_receiver_advertisement` was asked to announce exactly when the
listener accepts connections and is not busy. -/
theorem connectable_of_adopted_iff {I : Type} {discovery : MdnsDiscoveryService I}
    {addresses : LocalAddresses} {request : AdvertisementRequest} {service : ResolvedService}
    {announced : Finset IpAddr} {port : UInt16} {observer : DeviceId} {nowUnixMs : ℕ}
    {device : DiscoveredDevice}
    (hcarries : service.Carries (txtProperties (discovery.adopt addresses request).profile)
      announced port)
    (hid : discovery.profile.deviceId.value ≠ "") (hname : discovery.profile.deviceName ≠ "")
    (hdevice : discoveredDeviceFromResolved nowUnixMs service observer = .ok device) :
    device.isReceiverConnectable = true ↔
      request.listening = true ∧ request.busy = false ∧
        (∃ address ∈ announced, isRemoteSelectionCandidate address = true) ∧
        discovery.profile.deviceId ≠ observer := by
  obtain ⟨read, hread, hdeviceId, -, -, hversion, hcapabilities, havailability⟩ :=
    read_back_fields hcarries hid hname observer nowUnixMs
  obtain rfl : device = read := Except.ok.inj (hdevice.symm.trans hread)
  rw [connectable_of_carried_iff hcarries hdevice hdeviceId hversion hcapabilities havailability]
  have hflag : (discovery.adopt addresses request).profile.capabilities.supportsReceiver =
      request.listening := by
    show request.capabilities.supportsReceiver = request.listening
    rw [AdvertisementRequest.capabilities]
    cases request.listening <;> rfl
  have havailable : (discovery.adopt addresses request).profile.availability = .available ↔
      request.listening = true ∧ request.busy = false := by
    show request.availability = .available ↔ _
    rw [AdvertisementRequest.availability]
    cases request.listening <;> cases request.busy <;> decide
  rw [hflag, havailable]
  show _ ∧ _ ∧ _ ∧ discovery.profile.deviceId ≠ observer ↔ _
  tauto

end SynchroSonic
