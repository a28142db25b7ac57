import PersonalVpn.Protocol.Wire

namespace PersonalVpn.Protocol

def kMinimumIpv4Mtu : UInt16 := 576
def kMinimumIpv6Mtu : UInt16 := 1280
def kMaximumTunnelMtu : UInt16 := 9000
def kCapabilityIpv4 : UInt32 := (1 : UInt32) <<< 0
def kCapabilityIpv6 : UInt32 := (1 : UInt32) <<< 1
def kMaximumErrorMessageSize : Nat := 1024

structure ClientHello where
  requestedMtu : UInt16
  capabilities : UInt32
  deriving DecidableEq, Repr

structure IpAssignment where
  clientAddress : Vector UInt8 4
  gatewayAddress : Vector UInt8 4
  prefixLength : UInt8
  mtu : UInt16
  leaseSeconds : UInt32
  clientIpv6Address : Vector UInt8 16
  gatewayIpv6Address : Vector UInt8 16
  ipv6PrefixLength : UInt8
  deriving DecidableEq, Repr

structure LivenessProbe where
  nonce : UInt64
  deriving DecidableEq, Repr

structure ErrorMessage where
  code : UInt16
  message : Bytes
  deriving DecidableEq, Repr

structure CloseMessage where
  code : UInt16
  deriving DecidableEq, Repr

def validateMtu (mtu : UInt16) : Except Exception Unit :=
  throwIf (mtu < kMinimumIpv4Mtu ∨ mtu > kMaximumTunnelMtu)
    (.invalidArgument (text "tunnel MTU is outside the supported range"))

def requireSize (payload : Bytes) (expected : Nat) (messageName : Bytes) : Except Exception Unit :=
  throwIf (payload.length ≠ expected)
    (.invalidArgument (messageName ++ text " payload has an invalid length"))

/-- `is_unspecified`, and the `std::all_of` tests of the IPv6 fields. -/
def isUnspecified {n : Nat} (address : Vector UInt8 n) : Bool := address.toList.all (· == 0)

def validateIpAssignment (message : IpAssignment) : Except Exception Unit := do
  throwIf (isUnspecified message.clientAddress ∨ isUnspecified message.gatewayAddress)
    (.invalidArgument (text "IP assignment cannot contain an unspecified address"))
  throwIf (message.prefixLength = 0 ∨ message.prefixLength > 32)
    (.invalidArgument (text "IPv4 prefix length must be between 1 and 32"))
  validateMtu message.mtu
  throwIf (message.leaseSeconds = 0)
    (.invalidArgument (text "IP lease duration must be non-zero"))
  let hasIpv6 : Bool := message.ipv6PrefixLength != 0
  let clientV6Unspecified := isUnspecified message.clientIpv6Address
  let gatewayV6Unspecified := isUnspecified message.gatewayIpv6Address
  throwIf (hasIpv6 ∧ (message.ipv6PrefixLength > 128 ∨ clientV6Unspecified ∨ gatewayV6Unspecified ∨
      message.clientIpv6Address = message.gatewayIpv6Address ∨ message.mtu < kMinimumIpv6Mtu))
    (.invalidArgument (text "IPv6 assignment is invalid"))
  throwIf (!hasIpv6 ∧ (!clientV6Unspecified ∨ !gatewayV6Unspecified))
    (.invalidArgument (text "IPv6 addresses require a non-zero prefix length"))

def encodeClientHello (message : ClientHello) : Except Exception Bytes := do
  throwIf (message.requestedMtu < kMinimumIpv6Mtu ∨ message.requestedMtu > kMaximumTunnelMtu)
    (.invalidArgument (text "dual-stack tunnel MTU is outside the supported range"))
  throwIf (message.capabilities &&& kCapabilityIpv4 = 0 ∨
      message.capabilities &&& kCapabilityIpv6 = 0 ∨
      message.capabilities &&& ~~~(kCapabilityIpv4 ||| kCapabilityIpv6) ≠ 0)
    (.invalidArgument (text "client must advertise supported IPv4 and IPv6 capabilities"))
  let output := appendU16 [] message.requestedMtu
  let output := appendU16 output 0
  return appendU32 output message.capabilities

def decodeClientHello (payload : Bytes) : Except Exception ClientHello := do
  requireSize payload 8 (text "CLIENT_HELLO")
  throwIf (readU16 (payload.drop 2) ≠ 0)
    (.invalidArgument (text "CLIENT_HELLO reserved field must be zero"))
  let message : ClientHello := ⟨readU16 payload, readU32 (payload.drop 4)⟩
  let _ ← encodeClientHello message
  return message

def encodeIpAssignment (message : IpAssignment) : Except Exception Bytes := do
  validateIpAssignment message
  let output := message.clientAddress.toList
  let output := output ++ message.gatewayAddress.toList
  let output := output ++ [message.prefixLength]
  let output := output ++ [0]
  let output := appendU16 output message.mtu
  let output := appendU32 output message.leaseSeconds
  let output := output ++ message.clientIpv6Address.toList
  let output := output ++ message.gatewayIpv6Address.toList
  let output := output ++ [message.ipv6PrefixLength]
  return output ++ [0] ++ [0] ++ [0]

def decodeIpAssignment (payload : Bytes) : Except Exception IpAssignment := do
  requireSize payload 52 (text "IP_ASSIGN")
  throwIf (byteAt payload 9 ≠ 0)
    (.invalidArgument (text "IP_ASSIGN reserved field must be zero"))
  let message : IpAssignment := {
    clientAddress := copyN payload 0 4
    gatewayAddress := copyN payload 4 4
    prefixLength := byteAt payload 8
    mtu := readU16 (payload.drop 10)
    leaseSeconds := readU32 (payload.drop 12)
    clientIpv6Address := copyN payload 16 16
    gatewayIpv6Address := copyN payload 32 16
    ipv6PrefixLength := byteAt payload 48 }
  throwIf (byteAt payload 49 ≠ 0 ∨ byteAt payload 50 ≠ 0 ∨ byteAt payload 51 ≠ 0)
    (.invalidArgument (text "IP_ASSIGN reserved fields must be zero"))
  validateIpAssignment message
  return message

def encodeLivenessProbe (message : LivenessProbe) : Bytes := appendU64 [] message.nonce

def decodeLivenessProbe (payload : Bytes) : Except Exception LivenessProbe := do
  requireSize payload 8 (text "liveness probe")
  return ⟨readU64 payload⟩

def encodeErrorMessage (message : ErrorMessage) : Except Exception Bytes := do
  throwIf (message.message.length > kMaximumErrorMessageSize)
    (.invalidArgument (text "ERROR message text exceeds the protocol limit"))
  return appendU16 [] message.code ++ message.message

def decodeErrorMessage (payload : Bytes) : Except Exception ErrorMessage := do
  throwIf (payload.length < 2 ∨ payload.length > 2 + kMaximumErrorMessageSize)
    (.invalidArgument (text "ERROR payload has an invalid length"))
  return ⟨readU16 payload, payload.drop 2⟩

def encodeCloseMessage (message : CloseMessage) : Bytes := appendU16 [] message.code

def decodeCloseMessage (payload : Bytes) : Except Exception CloseMessage := do
  requireSize payload 2 (text "CLOSE")
  return ⟨readU16 payload⟩

end PersonalVpn.Protocol
