import PersonalVpn.Core.LeaseInvariant
import PersonalVpn.Lib.WeightedRules

/-! The Windows Filtering Platform as far as the filters of the kill switch use it: what a filter
says, which packets it matches and which packets leave. -/

namespace PersonalVpn.Client

open PersonalVpn.Core

structure Guid where
  data1 : UInt32
  data2 : UInt16
  data3 : UInt16
  data4 : Vector UInt8 8
  deriving DecidableEq, Repr

/-- `FWP_CONDITION_VALUE0`. -/
inductive ConditionValue where
  | uint8 (value : UInt8)
  | uint16 (value : UInt16)
  | uint32 (value : UInt32)
  | v4AddrMask (addr mask : UInt32)
  | v6AddrMask (addr : Ipv6Address) (prefixLength : UInt8)
  deriving DecidableEq, Repr

/-- `FWPM_FILTER_CONDITION0` with `FWP_MATCH_EQUAL`. -/
structure FilterCondition where
  fieldKey : Guid
  conditionValue : ConditionValue
  deriving DecidableEq, Repr

inductive ActionType where
  | block
  | permit
  deriving DecidableEq, Repr

/-- `FWPM_FILTER0`. -/
structure WfpFilter where
  displayName : Bytes
  flags : UInt32
  providerKey : Option Guid
  layerKey : Guid
  subLayerKey : Guid
  weight : UInt64
  filterCondition : List FilterCondition
  action : ActionType
  deriving DecidableEq, Repr

def kOutboundIpPacketV4 : Guid :=
  ⟨0x1e5c9fae, 0x8a84, 0x4135, #v[0xa3, 0x31, 0x95, 0x0b, 0x54, 0x22, 0x9e, 0xcd]⟩

def kOutboundIpPacketV6 : Guid :=
  ⟨0xa3b3ab6b, 0x3564, 0x488c, #v[0x91, 0x17, 0xf3, 0x4e, 0x82, 0x14, 0x27, 0x63]⟩

def kOutboundTransportV4 : Guid :=
  ⟨0x09e61aea, 0xd214, 0x46e2, #v[0x9b, 0x21, 0xb2, 0x6b, 0x0b, 0x2f, 0x28, 0xc8]⟩

def kOutboundTransportV6 : Guid :=
  ⟨0xe1735bde, 0x013f, 0x4655, #v[0xb3, 0x51, 0xa4, 0x9e, 0x15, 0x76, 0x2d, 0xf0]⟩

def kRemoteAddressCondition : Guid :=
  ⟨0xb235ae9a, 0x1d64, 0x49b8, #v[0xa4, 0x4c, 0x5f, 0xf3, 0xd9, 0x09, 0x50, 0x45]⟩

def kInterfaceIndexCondition : Guid :=
  ⟨0x667fd755, 0xd695, 0x434a, #v[0x8a, 0xf5, 0xd3, 0x83, 0x5a, 0x12, 0x59, 0xbc]⟩

def kProtocolCondition : Guid :=
  ⟨0x3971ef2b, 0x623e, 0x4f9a, #v[0x8c, 0xb1, 0x6e, 0x79, 0xb8, 0x06, 0xb9, 0xa7]⟩

def kRemotePortCondition : Guid :=
  ⟨0xc35a604d, 0xd22b, 0x4e1a, #v[0x91, 0xb4, 0x68, 0xf6, 0x74, 0xee, 0x67, 0x4b]⟩

inductive RemoteAddress where
  | ipv4 (address : Ipv4Address)
  | ipv6 (address : Ipv6Address)
  deriving DecidableEq, Repr

structure OutboundPacket where
  remote : RemoteAddress
  protocol : UInt8
  remotePort : UInt16
  interfaceIndex : UInt32
  deriving DecidableEq, Repr

def RemoteAddress.isIpv6 : RemoteAddress → Bool
  | ipv4 _ => false
  | ipv6 _ => true

/-- The packet layer of a family. -/
def outboundIpPacket (ipv6 : Bool) : Guid :=
  if ipv6 then kOutboundIpPacketV6 else kOutboundIpPacketV4

def outboundTransport (ipv6 : Bool) : Guid :=
  if ipv6 then kOutboundTransportV6 else kOutboundTransportV4

/-- The addresses agree in the bits of the mask, both in host order, or in those of the prefix. A
value of the other family matches nothing. -/
def ConditionValue.MatchesAddress : ConditionValue → RemoteAddress → Prop
  | .v4AddrMask addr mask, .ipv4 address => toInteger address &&& mask = addr &&& mask
  | .v6AddrMask addr prefixLength, .ipv6 address =>
    BigEndian.value address.toList / 2 ^ (128 - prefixLength.toNat) =
      BigEndian.value addr.toList / 2 ^ (128 - prefixLength.toNat)
  | _, _ => False

instance : (value : ConditionValue) → (remote : RemoteAddress) →
    Decidable (value.MatchesAddress remote)
  | .v4AddrMask addr mask, .ipv4 address =>
    inferInstanceAs (Decidable (toInteger address &&& mask = addr &&& mask))
  | .v6AddrMask addr prefixLength, .ipv6 address =>
    inferInstanceAs (Decidable (BigEndian.value address.toList / 2 ^ (128 - prefixLength.toNat) =
      BigEndian.value addr.toList / 2 ^ (128 - prefixLength.toNat)))
  | .v4AddrMask .., .ipv6 _ => .isFalse id
  | .v6AddrMask .., .ipv4 _ => .isFalse id
  | .uint8 _, _ => .isFalse id
  | .uint16 _, _ => .isFalse id
  | .uint32 _, _ => .isFalse id

def FilterCondition.Matches (c : FilterCondition) (p : OutboundPacket) : Prop :=
  (c.fieldKey = kRemoteAddressCondition ∧ c.conditionValue.MatchesAddress p.remote) ∨
  (c.fieldKey = kInterfaceIndexCondition ∧ c.conditionValue = .uint32 p.interfaceIndex) ∨
  (c.fieldKey = kProtocolCondition ∧ c.conditionValue = .uint8 p.protocol) ∨
  (c.fieldKey = kRemotePortCondition ∧ c.conditionValue = .uint16 p.remotePort)

instance (c : FilterCondition) (p : OutboundPacket) : Decidable (c.Matches p) :=
  inferInstanceAs (Decidable (_ ∨ _))

/-- Conditions on one field are alternatives, those on different fields must all hold. -/
def WfpFilter.Matches (f : WfpFilter) (p : OutboundPacket) : Prop :=
  ∀ c ∈ f.filterCondition, ∃ c' ∈ f.filterCondition, c'.fieldKey = c.fieldKey ∧ c'.Matches p

instance (f : WfpFilter) (p : OutboundPacket) : Decidable (f.Matches p) :=
  inferInstanceAs (Decidable (∀ c ∈ f.filterCondition, _))

/-- Filters judge by their weights. -/
@[reducible] def filterRules : WeightedRules WfpFilter OutboundPacket Nat where
  applies := WfpFilter.Matches
  weight f := f.weight.toNat
  permits f := f.action = .permit

/-- The filters of a sublayer at a layer. -/
def atLayer (subLayerKey layerKey : Guid) (filters : List WfpFilter) : List WfpFilter :=
  filters.filter fun f => f.layerKey = layerKey ∧ f.subLayerKey = subLayerKey

/-- Neither layer of the family of the packet blocks it. -/
def Permitted (subLayerKey : Guid) (filters : List WfpFilter) (p : OutboundPacket) : Prop :=
  filterRules.Admits (atLayer subLayerKey (outboundIpPacket p.remote.isIpv6) filters) p ∧
    filterRules.Admits (atLayer subLayerKey (outboundTransport p.remote.isIpv6) filters) p

instance (subLayerKey : Guid) (filters : List WfpFilter) (p : OutboundPacket) :
    Decidable (Permitted subLayerKey filters p) :=
  inferInstanceAs (Decidable (_ ∧ _))

end PersonalVpn.Client
