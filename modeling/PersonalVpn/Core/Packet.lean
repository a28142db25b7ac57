import Mathlib.Tactic.MkIffOfInductiveProp
import PersonalVpn.Basic

namespace PersonalVpn.Core

/-- `packet[0] >> 4`. -/
def packetVersion (packet : Bytes) : UInt8 := byteAt packet 0 >>> 4

/-- `(packet[0] & 0x0F) * 4`. -/
def ipv4HeaderLength (packet : Bytes) : Nat := (byteAt packet 0 &&& 0x0F).toNat * 4

/-- `(packet[i] << 8) | packet[i + 1]`. -/
def lengthField (packet : Bytes) (i : Nat) : Nat :=
  ((byteAt packet i).toNat <<< 8) ||| (byteAt packet (i + 1)).toNat

def ipv4Source (packet : Bytes) : Vector UInt8 4 := copyN packet 12 4
def ipv4Destination (packet : Bytes) : Vector UInt8 4 := copyN packet 16 4
def ipv6Source (packet : Bytes) : Vector UInt8 16 := copyN packet 8 16
def ipv6Destination (packet : Bytes) : Vector UInt8 16 := copyN packet 24 16

/-- A structurally valid IPv4 packet: its header fits and its total length is its size. -/
@[mk_iff] structure IsIpv4 (packet : Bytes) : Prop where
  version : packetVersion packet = 4
  size : 20 ≤ packet.length
  header_ge : 20 ≤ ipv4HeaderLength packet
  header_le : ipv4HeaderLength packet ≤ packet.length
  total : lengthField packet 2 = packet.length

/-- A structurally valid IPv6 packet. -/
@[mk_iff] structure IsIpv6 (packet : Bytes) : Prop where
  version : packetVersion packet = 6
  size : 40 ≤ packet.length
  payload : lengthField packet 4 + 40 = packet.length

instance (packet : Bytes) : Decidable (IsIpv4 packet) :=
  decidable_of_iff _ (isIpv4_iff packet).symm

instance (packet : Bytes) : Decidable (IsIpv6 packet) :=
  decidable_of_iff _ (isIpv6_iff packet).symm

end PersonalVpn.Core
