import SynchroSonic.Core.Config
import SynchroSonic.Machine.AddrParser

/-!
# Where the receiver listens

`receiver_bind_addr` puts the port behind the configured host and reads the result as a socket address. If
that fails it takes all IPv4 interfaces.

It fails for the text of every IPv6 address and of no IPv4 address (`receiverBindAddr_eq_iff`): in a
socket address an IPv6 address stands in brackets, and so it has to in the configuration
(`receiverBindAddr_bracketed`).
-/

namespace SynchroSonic

/-- `str::parse::<IpAddr>`. -/
def IpAddr.parse (text : String) : Option IpAddr :=
  (AddrParser.parseWith AddrParser.readIpAddr text.toList).map (Sum.elim .v4 .v6)

/-- `str::parse::<SocketAddr>`. -/
def SocketAddr.parse (text : String) : Option SocketAddr :=
  (AddrParser.parseWith AddrParser.readSocketAddr text.toList).map fun read ↦
    ⟨Sum.elim .v4 .v6 read.1, UInt16.ofNat read.2⟩

def receiverBindAddr (config : AppConfig) : SocketAddr :=
  (SocketAddr.parse (config.receiver.bindHost ++ ":" ++ toString config.receiver.listenPort)).getD
    ⟨.v4 0, config.receiver.listenPort⟩

/-! ### The two families -/

section Families

variable {config : AppConfig} {text : String} {port : UInt16}

theorem IpAddr.parse_eq_v4 {bits : BitVec 32} : IpAddr.parse text = some (.v4 bits) ↔
    AddrParser.parseWith AddrParser.readIpAddr text.toList = some (.inl bits) := by
  rw [parse]
  cases AddrParser.parseWith AddrParser.readIpAddr text.toList with
  | none => simp
  | some read => cases read <;> simp

theorem IpAddr.parse_eq_v6 {bits : BitVec 128} : IpAddr.parse text = some (.v6 bits) ↔
    AddrParser.parseWith AddrParser.readIpAddr text.toList = some (.inr bits) := by
  rw [parse]
  cases AddrParser.parseWith AddrParser.readIpAddr text.toList with
  | none => simp
  | some read => cases read <;> simp

/-- **An IPv4 address is parsed from its text.** -/
theorem IpAddr.parse_ipv4Text (bits : BitVec 32) : IpAddr.parse (ipv4Text bits) = some (.v4 bits) := by
  have hbits := bits.isLt
  have hoctet (shift : ℕ) : bits.toNat / 2 ^ shift % 256 < 256 := Nat.mod_lt _ (by omega)
  have hread := AddrParser.readIpv4Addr_toDigits (hoctet 24) (hoctet 16) (hoctet 8) (hoctet 0)
  have hvalue : ((bits.toNat / 2 ^ 24 % 256 * 256 + bits.toNat / 2 ^ 16 % 256) * 256 +
      bits.toNat / 2 ^ 8 % 256) * 256 + bits.toNat / 2 ^ 0 % 256 = bits.toNat := by omega
  have htext : (ipv4Text bits).toList = Nat.toDigits 10 (bits.toNat / 2 ^ 24 % 256) ++ '.' ::
      (Nat.toDigits 10 (bits.toNat / 2 ^ 16 % 256) ++ '.' ::
        (Nat.toDigits 10 (bits.toNat / 2 ^ 8 % 256) ++ '.' ::
          Nat.toDigits 10 (bits.toNat / 2 ^ 0 % 256))) := by
    simp [ipv4Text]
  rw [hvalue, BitVec.ofNat_toNat, BitVec.setWidth_eq, ← htext] at hread
  rw [IpAddr.parse_eq_v4, AddrParser.parseWith_eq_some, AddrParser.readIpAddr_eq_inl, hread]

/-- The characters that are read. -/
theorem toList_host_port : (text ++ ":" ++ toString port).toList =
    text.toList ++ ':' :: Nat.toDigits 10 port.toNat := by
  have hport : (toString port).toList = Nat.toDigits 10 port.toNat := Nat.toList_repr
  rw [String.toList_append, String.toList_append, hport, List.append_assoc]
  rfl

theorem receiverBindAddr_ipv4 {bits : BitVec 32}
    (h : IpAddr.parse config.receiver.bindHost = some (.v4 bits)) :
    receiverBindAddr config = ⟨.v4 bits, config.receiver.listenPort⟩ := by
  have hread := AddrParser.parse_ipv4_port (IpAddr.parse_eq_v4.mp h) config.receiver.listenPort.toNat_lt
  rw [receiverBindAddr, SocketAddr.parse, toList_host_port, hread]
  simp

theorem receiverBindAddr_ipv6 {bits : BitVec 128}
    (h : IpAddr.parse config.receiver.bindHost = some (.v6 bits)) :
    receiverBindAddr config = ⟨.v4 0, config.receiver.listenPort⟩ := by
  have hread := AddrParser.parse_ipv6_port (IpAddr.parse_eq_v6.mp h)
  rw [receiverBindAddr, SocketAddr.parse, toList_host_port, hread]
  rfl

/-- **What has to stand in the configuration.** -/
theorem receiverBindAddr_bracketed {bits : BitVec 128} (h : IpAddr.parse text = some (.v6 bits))
    (hhost : config.receiver.bindHost = "[" ++ text ++ "]") :
    receiverBindAddr config = ⟨.v6 bits, config.receiver.listenPort⟩ := by
  have hread := AddrParser.parse_bracketed_port (IpAddr.parse_eq_v6.mp h)
    config.receiver.listenPort.toNat_lt
  have htext : ("[" ++ text ++ "]").toList ++ ':' :: Nat.toDigits 10 config.receiver.listenPort.toNat =
      '[' :: text.toList ++ ']' :: ':' :: Nat.toDigits 10 config.receiver.listenPort.toNat := by
    rw [String.toList_append, String.toList_append, List.append_assoc]
    rfl
  rw [receiverBindAddr, SocketAddr.parse, toList_host_port, hhost, htext, hread]
  simp

end Families

/-- The address is an IPv4 address. -/
def IpAddr.isIpv4 : IpAddr → Bool
  | .v4 _ => true
  | .v6 _ => false

/-- **The receiver listens where it was told to** exactly if it was told an IPv4 address. -/
theorem receiverBindAddr_eq_iff {config : AppConfig} {ip : IpAddr}
    (h : IpAddr.parse config.receiver.bindHost = some ip) :
    receiverBindAddr config = ⟨ip, config.receiver.listenPort⟩ ↔ ip.isIpv4 = true := by
  cases ip with
  | v4 bits => exact iff_of_true (receiverBindAddr_ipv4 h) rfl
  | v6 bits =>
    rw [receiverBindAddr_ipv6 h]
    exact iff_of_false (fun hsame ↦ IpAddr.noConfusion (congrArg SocketAddr.ip hsame))
      Bool.false_ne_true

/-- The loopback address. -/
theorem receiverBindAddr_loopback :
    receiverBindAddr { receiver := { bindHost := "127.0.0.1" } } = ⟨.v4 0x7f000001, 51700⟩ :=
  (@receiverBindAddr_eq_iff { receiver := { bindHost := "127.0.0.1" } } (.v4 0x7f000001)
    (by decide +kernel)).mpr rfl

/-- **The loopback address of the other family** opens all IPv4 interfaces. -/
theorem receiverBindAddr_loopback6 : ¬∀ (config : AppConfig) (ip : IpAddr),
    IpAddr.parse config.receiver.bindHost = some ip →
      receiverBindAddr config = ⟨ip, config.receiver.listenPort⟩ := by
  intro h
  have hloopback := h { receiver := { bindHost := "::1" } } (.v6 1) (by decide +kernel)
  exact absurd hloopback (by decide +kernel)

end SynchroSonic
