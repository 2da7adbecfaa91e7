import Mathlib.Data.List.AList
import SynchroSonic.Core.State

/-!
# The device registry

`DeviceRegistry`: the devices discovery has heard of, with the time of the last word from each. The
registry is a hash map, so whoever walks through it gives the order. The clock is read anew for every
entry a walk looks at.
-/

namespace SynchroSonic

/-! ### Which address is the better one -/

namespace IpAddr

/-- The leading `n` bits of an IPv4 address. -/
def v4Leading (n : ℕ) (bits : BitVec 32) : ℕ := bits.toNat / 2 ^ (32 - n)

/-- The leading `n` bits of an IPv6 address. -/
def v6Leading (n : ℕ) (bits : BitVec 128) : ℕ := bits.toNat / 2 ^ (128 - n)

def isLoopback : IpAddr → Bool
  | .v4 bits => v4Leading 8 bits == 127
  | .v6 bits => bits == 1

def isUnspecified : IpAddr → Bool
  | .v4 bits => bits == 0
  | .v6 bits => bits == 0

def isMulticast : IpAddr → Bool
  | .v4 bits => v4Leading 4 bits == 0xe
  | .v6 bits => v6Leading 8 bits == 0xff

end IpAddr

/-- `Ipv4Addr::is_link_local`: 169.254.0.0/16. -/
def isLinkLocalIpv4 (bits : BitVec 32) : Bool := IpAddr.v4Leading 16 bits == 0xa9fe

/-- `Ipv4Addr::is_private`: 10.0.0.0/8, 172.16.0.0/12 and 192.168.0.0/16. -/
def isPrivateIpv4 (bits : BitVec 32) : Bool :=
  IpAddr.v4Leading 8 bits == 10 || IpAddr.v4Leading 12 bits == 0xac1
    || IpAddr.v4Leading 16 bits == 0xc0a8

def isLikelyDockerIpv4 (bits : BitVec 32) : Bool :=
  let first := IpAddr.v4Leading 8 bits
  let second := IpAddr.v4Leading 16 bits % 256
  first == 172 && (decide (17 ≤ second) && decide (second ≤ 31))

/-- `Ipv6Addr::is_unicast_link_local`: fe80::/10. -/
def isUnicastLinkLocalIpv6 (bits : BitVec 128) : Bool := IpAddr.v6Leading 10 bits == 0xfe80 / 64

/-- `Ipv6Addr::is_unique_local`: fc00::/7. -/
def isUniqueLocalIpv6 (bits : BitVec 128) : Bool := IpAddr.v6Leading 7 bits == 0xfc / 2

def endpointRank (address : IpAddr) : ℕ ×ₗ ℕ :=
  match address with
  | .v4 bits =>
    let quality :=
      if address.isLoopback || address.isUnspecified || address.isMulticast then 0
      else if isLikelyDockerIpv4 bits then 1
      else if isLinkLocalIpv4 bits then 2
      else if isPrivateIpv4 bits then 5
      else 4
    toLex (quality, 1)
  | .v6 bits =>
    let quality :=
      if address.isLoopback || address.isUnspecified || address.isMulticast then 0
      else if isUnicastLinkLocalIpv6 bits then 2
      else if isUniqueLocalIpv6 bits then 3
      else 4
    toLex (quality, 0)

def preferredEndpoint (existing incoming : Option TransportEndpoint) : Option TransportEndpoint :=
  match existing, incoming with
  | some existing, some incoming =>
    if endpointRank existing.address.ip < endpointRank incoming.address.ip then some incoming
    else some existing
  | some existing, none => some existing
  | none, some incoming => some incoming
  | none, none => none

example : endpointRank (.v4 0xac110001) < endpointRank (.v4 0xc0a8087f) := by decide

/-! ### The registry -/

def mergeDiscoveredDevice (existing incoming : DiscoveredDevice) : DiscoveredDevice :=
  { incoming with endpoint := preferredEndpoint existing.endpoint incoming.endpoint }

def materiallySameDiscoveredDevice (existing incoming : DiscoveredDevice) : Bool :=
  existing.unseen == incoming.unseen

/-- `RegistryEntry`. -/
structure RegistryEntry where
  device : DiscoveredDevice
  lastSeen : Instant
  markedStale : Bool
  deriving DecidableEq, Repr

/-- `DeviceRegistry`. -/
structure DeviceRegistry where
  devices : AList fun _ : DeviceId ↦ RegistryEntry := ∅
  staleTimeout : Duration

namespace RegistryEntry

/-- An entry that has been silent for too long and is not marked yet. -/
def isExpired (staleTimeout : Duration) (now : Instant) (entry : RegistryEntry) : Bool :=
  !entry.markedStale && decide (staleTimeout ≤ now - entry.lastSeen)

/-- What `prune_stale` makes of it. -/
def expire (entry : RegistryEntry) : RegistryEntry :=
  { entry with
    device := { entry.device with
      status := .stale
      availability := .unavailable }
    markedStale := true }

end RegistryEntry

namespace DeviceRegistry

/-- `DeviceRegistry::new`. -/
def new (staleTimeout : Duration) : DeviceRegistry := { staleTimeout }

/-- Both branches of `upsert` write one entry. -/
def insert (deviceId : DeviceId) (entry : RegistryEntry) (registry : DeviceRegistry) :
    DeviceRegistry :=
  { registry with devices := registry.devices.insert deviceId entry }

def remove (deviceId : DeviceId) (registry : DeviceRegistry) : DeviceRegistry :=
  { registry with devices := registry.devices.erase deviceId }

def upsert (nowUnixMs : ℕ) (now : Instant) (device : DiscoveredDevice) (registry : DeviceRegistry) :
    Option DiscoveryEvent × DeviceRegistry :=
  let device := { device with lastSeenUnixMs := nowUnixMs }
  match registry.devices.lookup device.id with
  | some entry =>
    let merged := mergeDiscoveredDevice entry.device device
    let changed := !materiallySameDiscoveredDevice entry.device merged
    (if changed then some (.deviceUpdated merged) else none,
      registry.insert device.id ⟨merged, now, false⟩)
  | none => (some (.deviceDiscovered device), registry.insert device.id ⟨device, now, false⟩)

/-- `mark_removed_by_fullname`, on a walk in this order. -/
def markRemovedByFullname (order : List DeviceId) (fullname : String) (registry : DeviceRegistry) :
    Option DiscoveryEvent × DeviceRegistry :=
  match order.find? fun deviceId ↦ (registry.devices.lookup deviceId).any fun entry ↦
      entry.device.serviceFullname == fullname with
  | some deviceId => (some (.deviceRemoved deviceId fullname), registry.remove deviceId)
  | none => (none, registry)

/-- One entry of `prune_stale`. -/
def pruneEntry (now : Instant) (deviceId : DeviceId) (registry : DeviceRegistry) :
    Option DiscoveryEvent × DeviceRegistry :=
  match registry.devices.lookup deviceId with
  | some entry =>
    if entry.isExpired registry.staleTimeout now then
      (some (.deviceExpired entry.expire.device), registry.insert deviceId entry.expire)
    else (none, registry)
  | none => (none, registry)

/-- One round of the loop in `prune_stale`, with the events before it. -/
def pruneRound (now : DeviceId → Instant) (pruned : List DiscoveryEvent × DeviceRegistry)
    (deviceId : DeviceId) : List DiscoveryEvent × DeviceRegistry :=
  let (event, registry) := pruned.2.pruneEntry (now deviceId) deviceId
  (pruned.1 ++ event.toList, registry)

/-- `prune_stale`, on a walk in this order. -/
def pruneStale (order : List DeviceId) (now : DeviceId → Instant) (registry : DeviceRegistry) :
    List DiscoveryEvent × DeviceRegistry :=
  order.foldl (pruneRound now) ([], registry)

/-- The order of `snapshot`. -/
def displayLe (left right : DiscoveredDevice) : Bool := !decide (right.displayName < left.displayName)

/-- `snapshot`, on a walk in this order. -/
def snapshot (order : List DeviceId) (nowUnixMs : ℕ) (registry : DeviceRegistry) :
    DiscoverySnapshot where
  devices := (order.filterMap fun deviceId ↦
    (registry.devices.lookup deviceId).map RegistryEntry.device).mergeSort displayLe
  updatedAtUnixMs := nowUnixMs

end DeviceRegistry

end SynchroSonic
