import Mathlib.Tactic

/-!
# Identifiers and addresses

The small shared data types: device identifiers, quality presets and socket addresses. An address is
its bits; `display` is the text error messages quote.
-/

namespace SynchroSonic

/-- A moment on the monotonic clock, in nanoseconds from an arbitrary origin. -/
abbrev Instant := ℕ

/-- A span of time in nanoseconds. -/
abbrev Duration := ℕ

/-- `Duration::from_millis`. -/
def Duration.fromMillis (ms : ℕ) : Duration := ms * 1000000

/-- `as_millis`: whole milliseconds, rounded down. -/
def Duration.asMillis (duration : Duration) : ℕ := duration / 1000000

/-- `DeviceId`. -/
structure DeviceId where
  value : String
  deriving DecidableEq, Repr

/-- `QualityPreset`. -/
inductive QualityPreset
  | lowLatency
  | balanced
  | highQuality
  deriving DecidableEq, Repr

/-- `IpAddr`. -/
inductive IpAddr
  | v4 (bits : BitVec 32)
  | v6 (bits : BitVec 128)
  deriving DecidableEq, Repr

/-- `SocketAddr`. -/
structure SocketAddr where
  ip : IpAddr
  port : UInt16
  deriving DecidableEq, Repr

/-! ### The text of an address -/

/-- Lower-case hexadecimal digits without leading zeros. -/
def hexText (n : ℕ) : String := String.ofList (Nat.toDigits 16 n)

/-- An IPv4 address in dotted decimal. -/
def ipv4Text (bits : BitVec 32) : String :=
  ".".intercalate ([24, 16, 8, 0].map fun shift ↦ toString (bits.toNat / 2 ^ shift % 256))

/-- The first longest run of zero segments, as start and length. -/
def longestZeroRun (segments : List ℕ) : ℕ × ℕ :=
  let scan := segments.zipIdx.foldl (fun (longest, current) (segment, i) ↦
    if segment = 0 then
      let current := if current.2 = 0 then (i, 1) else (current.1, current.2 + 1)
      (if longest.2 < current.2 then current else longest, current)
    else (longest, (0, 0))) (((0, 0), (0, 0)) : (ℕ × ℕ) × (ℕ × ℕ))
  scan.1

/-- An IPv6 address: mapped IPv4 addresses in mixed form, otherwise hexadecimal segments with the
first longest run of zeros shortened. -/
def ipv6Text (bits : BitVec 128) : String :=
  let segments := (List.range 8).map fun i ↦ bits.toNat / 2 ^ (16 * (7 - i)) % 65536
  let joined (part : List ℕ) := ":".intercalate (part.map hexText)
  if segments.take 6 = [0, 0, 0, 0, 0, 65535] then
    "::ffff:" ++ ipv4Text (BitVec.ofNat 32 bits.toNat)
  else
    let (start, length) := longestZeroRun segments
    if 1 < length then joined (segments.take start) ++ "::" ++ joined (segments.drop (start + length))
    else joined segments

/-- The `Display` text of a socket address. -/
def SocketAddr.display : SocketAddr → String
  | ⟨.v4 bits, port⟩ => ipv4Text bits ++ ":" ++ toString port
  | ⟨.v6 bits, port⟩ => "[" ++ ipv6Text bits ++ "]:" ++ toString port

example : SocketAddr.display ⟨.v4 0x7f000001, 51700⟩ = "127.0.0.1:51700" := by decide
example : SocketAddr.display ⟨.v6 1, 80⟩ = "[::1]:80" := by decide

/-- `TransportEndpoint`. -/
structure TransportEndpoint where
  deviceId : DeviceId
  address : SocketAddr
  deriving DecidableEq, Repr

end SynchroSonic
