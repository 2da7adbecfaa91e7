import SynchroSonic.Core.Config
import SynchroSonic.Discovery.Registry

/-!
# The advertisement

What a device says of itself over mDNS: the TXT pairs of its profile (`txtProperties`), and the address
it announces. The textual forms are the ones the other side parses.
-/

namespace SynchroSonic

/-! ### TXT keys and values -/

/-- `TXT_APP_ID`. -/
def txtAppId : String := "app"
/-- `TXT_APP_VERSION`. -/
def txtAppVersion : String := "app_version"
/-- `TXT_AVAILABILITY`. -/
def txtAvailability : String := "availability"
/-- `TXT_BLUETOOTH`. -/
def txtBluetooth : String := "bluetooth"
/-- `TXT_DEVICE_ID`. -/
def txtDeviceId : String := "device_id"
/-- `TXT_DEVICE_NAME`. -/
def txtDeviceName : String := "device_name"
/-- `TXT_LOCAL_OUTPUT`. -/
def txtLocalOutput : String := "local_output"
/-- `TXT_PROTOCOL_VERSION`. -/
def txtProtocolVersion : String := "protocol_version"
/-- `TXT_RECEIVER`. -/
def txtReceiver : String := "receiver"
/-- `TXT_RECEIVER_STATE`. -/
def txtReceiverState : String := "receiver_state"
/-- `TXT_SENDER`. -/
def txtSender : String := "sender"

/-- `RECEIVER_STATE_IDLE`. -/
def receiverStateIdle : String := "idle"
/-- `RECEIVER_STATE_STARTING`. -/
def receiverStateStarting : String := "starting"
/-- `RECEIVER_STATE_LISTENING`. -/
def receiverStateListening : String := "listening"
/-- `RECEIVER_STATE_UNAVAILABLE`. -/
def receiverStateUnavailable : String := "unavailable"

/-- `LocalDiscoveryProfile`. -/
structure LocalDiscoveryProfile where
  deviceId : DeviceId
  deviceName : String
  appVersion : String
  capabilities : DeviceCapabilities
  availability : DeviceAvailability
  port : UInt16
  deriving DecidableEq, Repr

def availabilityTxt : DeviceAvailability → String
  | .available => "available"
  | .busy => "busy"
  | .unavailable => "unavailable"

def receiverStateTxt (supportsReceiver : Bool) (availability : DeviceAvailability) : String :=
  if !supportsReceiver then receiverStateIdle
  else
    match availability with
    | .available | .busy => receiverStateListening
    | .unavailable => receiverStateUnavailable

def txtProperties (profile : LocalDiscoveryProfile) : List (String × String) :=
  [(txtAppId, "synchrosonic"),
    (txtDeviceId, profile.deviceId.value),
    (txtDeviceName, profile.deviceName),
    (txtAppVersion, profile.appVersion),
    (txtProtocolVersion, toString discoveryProtocolVersion.toNat),
    (txtSender, toString profile.capabilities.supportsSender),
    (txtReceiver, toString profile.capabilities.supportsReceiver),
    (txtBluetooth, toString profile.capabilities.supportsBluetoothOutput),
    (txtLocalOutput, toString profile.capabilities.supportsLocalOutput),
    (txtAvailability, availabilityTxt profile.availability),
    (txtReceiverState,
      receiverStateTxt profile.capabilities.supportsReceiver profile.availability)]

/-- One character of a DNS label: letters in lower case, digits and hyphens, anything else a hyphen. -/
def dnsChar (char : Char) : Char :=
  if char.isAlphanum || char == '-' then char.toLower else '-'

/-- `trim_matches('-')`. -/
def trimHyphens (label : List Char) : List Char :=
  ((label.dropWhile (· == '-')).reverse.dropWhile (· == '-')).reverse

def sanitizedDnsLabel (value : String) : String :=
  let label := trimHyphens (value.toList.map dnsChar)
  if label.isEmpty then "synchrosonic-device" else String.ofList (label.take 63)

example : sanitizedDnsLabel "Living Room!" = "living-room" := by decide

/-! ### Addresses -/

def isRemoteSelectionCandidate (address : IpAddr) : Bool :=
  match address with
  | .v4 bits => !(address.isLoopback || address.isUnspecified || address.isMulticast
      || isLikelyDockerIpv4 bits)
  | .v6 _ => !(address.isLoopback || address.isUnspecified || address.isMulticast)

/-- `select_preferred_ip_address`: `max_by_key` takes the last of the highest rank. -/
def selectPreferredIpAddress (addresses : List IpAddr) : Option IpAddr :=
  (addresses.filter isRemoteSelectionCandidate).reverse.argmax endpointRank

def selectPreferredEndpoint (deviceId : DeviceId) (addresses : List IpAddr) (port : UInt16) :
    Option TransportEndpoint :=
  (selectPreferredIpAddress addresses).map fun address ↦ ⟨deviceId, ⟨address, port⟩⟩

/-- What the machine says of its own addresses. -/
structure LocalAddresses where
  /-- The local address of a UDP socket that is connected to this address. -/
  socketFor : IpAddr → Option IpAddr
  /-- The addresses of the name in `HOSTNAME`. -/
  hostname : Option (List IpAddr)

def preferredLocalIpFor (addresses : LocalAddresses) (remote : IpAddr) : Option IpAddr :=
  (addresses.socketFor remote).filter isRemoteSelectionCandidate

def preferredLocalIpForHostname (addresses : LocalAddresses) : Option IpAddr :=
  addresses.hostname.bind selectPreferredIpAddress

/-- 8.8.8.8. -/
def remoteIpv4 : IpAddr := .v4 0x08080808

/-- 2001:4860:4860::8888. -/
def remoteIpv6 : IpAddr := .v6 0x20014860486000000000000000008888

def localAdvertisedSocketAddr (addresses : LocalAddresses) (bindAddr : SocketAddr) :
    Option SocketAddr :=
  if isRemoteSelectionCandidate bindAddr.ip then some bindAddr
  else if bindAddr.ip.isUnspecified then
    let remote :=
      match bindAddr.ip with
      | .v4 _ => remoteIpv4
      | .v6 _ => remoteIpv6
    ((preferredLocalIpFor addresses remote).or (preferredLocalIpForHostname addresses)).map
      fun ip ↦ ⟨ip, bindAddr.port⟩
  else some bindAddr

end SynchroSonic
