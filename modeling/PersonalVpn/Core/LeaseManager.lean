import Mathlib.Data.List.AList
import PersonalVpn.Protocol.ControlMessages

namespace PersonalVpn.Core

open Protocol (isUnspecified kMinimumIpv4Mtu kMaximumTunnelMtu IpAssignment)

abbrev Ipv4Address := Vector UInt8 4
abbrev Ipv6Address := Vector UInt8 16

/-- `Ipv6Address{}`. -/
def Ipv6Address.zero : Ipv6Address := Vector.replicate 16 0

/-- A point of the steady clock in nanoseconds. The source's 64-bit tick count is taken not to
overflow. -/
abbrev TimePoint := Int

/-- Nanoseconds in one second of `std::chrono::seconds`. -/
def ticksPerSecond : Int := 1000000000

structure Lease where
  leaseId : UInt64
  identity : Bytes
  address : Ipv4Address
  ipv6Address : Ipv6Address
  expiresAt : TimePoint
  deriving DecidableEq, Repr

def toInteger (address : Ipv4Address) : UInt32 :=
  (address[0].toUInt32 <<< 24) ||| (address[1].toUInt32 <<< 16) |||
    (address[2].toUInt32 <<< 8) ||| address[3].toUInt32

def fromInteger (address : UInt32) : Ipv4Address :=
  #v[((address >>> 24) &&& 0xFF).toUInt8, ((address >>> 16) &&& 0xFF).toUInt8,
    ((address >>> 8) &&& 0xFF).toUInt8, (address &&& 0xFF).toUInt8]

/-- The network mask of a prefix length from 1 to 32. -/
def prefixMask (prefixLength : UInt8) : UInt32 :=
  if prefixLength = 32 then 0xFFFFFFFF else 0xFFFFFFFF <<< (32 - prefixLength.toUInt32)

/-- The constant members of `LeaseManager`. -/
structure LeasePolicy where
  firstAddress : UInt32
  lastAddress : UInt32
  gatewayAddress : Ipv4Address
  prefixLength : UInt8
  mtu : UInt16
  leaseDuration : Int
  ipv6Prefix : Ipv6Address
  ipv6Gateway : Ipv6Address
  ipv6PrefixLength : UInt8

/-- The IPv6 address `acquire` derives from a leased IPv4 address. -/
def LeasePolicy.deriveIpv6 (p : LeasePolicy) (ipv4 : Ipv4Address) : Ipv6Address :=
  if p.ipv6PrefixLength ≠ 0 then
    Vector.ofFn fun i : Fin 16 =>
      if i.val < 8 then p.ipv6Prefix[i]
      else if h : 12 ≤ i.val then ipv4.get ⟨i.val - 12, by omega⟩
      else 0
  else Ipv6Address.zero

/-- `now + lease_duration_`. -/
def LeasePolicy.expiry (p : LeasePolicy) (now : TimePoint) : TimePoint :=
  now + p.leaseDuration * ticksPerSecond

/-- The checks of the constructor, in the order of the source. -/
def LeasePolicy.validate (p : LeasePolicy) : Except Exception Unit := do
  throwIf (p.firstAddress > p.lastAddress)
    (.invalidArgument (text "first lease address must not exceed the last address"))
  throwIf (isUnspecified p.gatewayAddress)
    (.invalidArgument (text "lease gateway must not be unspecified"))
  throwIf (p.prefixLength = 0 ∨ p.prefixLength > 32)
    (.invalidArgument (text "lease prefix length must be between 1 and 32"))
  throwIf (p.mtu < kMinimumIpv4Mtu ∨ p.mtu > kMaximumTunnelMtu)
    (.invalidArgument (text "lease MTU is outside the supported range"))
  throwIf (p.leaseDuration ≤ 0 ∨ p.leaseDuration > 2 ^ 32 - 1)
    (.invalidArgument (text "lease duration is outside the protocol range"))
  throwIf (p.ipv6PrefixLength ≠ 0 ∧ (p.ipv6PrefixLength ≠ 64 ∨ isUnspecified p.ipv6Gateway))
    (.invalidArgument (text "IPv6 lease pool requires a non-zero gateway and /64 prefix"))
  throwIf (p.ipv6PrefixLength ≠ 0 ∧ p.ipv6Prefix.toList.take 8 ≠ p.ipv6Gateway.toList.take 8)
    (.invalidArgument (text "IPv6 gateway must belong to the configured /64 prefix"))
  throwIf (p.ipv6PrefixLength ≠ 0 ∧ !(p.ipv6Prefix.toList.drop 8).all (· == 0))
    (.invalidArgument (text "IPv6 lease prefix must be canonical /64 network address"))
  let gateway := toInteger p.gatewayAddress
  throwIf (gateway ≥ p.firstAddress ∧ gateway ≤ p.lastAddress)
    (.invalidArgument (text "lease pool must not contain the gateway address"))
  let mask := prefixMask p.prefixLength
  let network := gateway &&& mask
  throwIf (p.firstAddress &&& mask ≠ network ∨ p.lastAddress &&& mask ≠ network)
    (.invalidArgument (text "lease pool and gateway must belong to the configured subnet"))
  let broadcast := network ||| ~~~mask
  throwIf (p.prefixLength ≤ 30 ∧ (p.firstAddress ≤ network ∨ p.lastAddress ≥ broadcast))
    (.invalidArgument (text "lease pool must exclude network and broadcast addresses"))

structure LeaseManager extends LeasePolicy where
  leasesByIdentity : AList (fun _ : Bytes => Lease)
  identityByAddress : AList (fun _ : UInt32 => Bytes)
  nextLeaseId : UInt64

namespace LeaseManager

/-- The constructor. -/
def create (firstAddress lastAddress gatewayAddress : Ipv4Address) (prefixLength : UInt8)
    (mtu : UInt16) (leaseDuration : Int) (ipv6Prefix ipv6Gateway : Ipv6Address)
    (ipv6PrefixLength : UInt8) : Except Exception LeaseManager := do
  let policy : LeasePolicy := {
    firstAddress := toInteger firstAddress
    lastAddress := toInteger lastAddress
    gatewayAddress, prefixLength, mtu, leaseDuration, ipv6Prefix, ipv6Gateway, ipv6PrefixLength }
  policy.validate
  return { policy with leasesByIdentity := ∅, identityByAddress := ∅, nextLeaseId := 1 }

/-- One entry visited by the loop of `reap_expired_locked`. -/
def reapEntry (now : TimePoint) (acc : Nat × LeaseManager) (entry : Sigma fun _ : Bytes => Lease) :
    Nat × LeaseManager :=
  if entry.2.expiresAt ≤ now then
    (acc.1 + 1, { acc.2 with
      identityByAddress := acc.2.identityByAddress.erase (toInteger entry.2.address)
      leasesByIdentity := acc.2.leasesByIdentity.erase entry.1 })
  else acc

/-- The number of leases removed and the manager left. -/
def reapExpiredLocked (m : LeaseManager) (now : TimePoint) : Nat × LeaseManager :=
  m.leasesByIdentity.entries.foldl (reapEntry now) (0, m)

/-- The search of `acquire` for the first address without an owner. -/
def findFree (m : LeaseManager) (candidate : UInt32) : Option UInt32 :=
  if m.identityByAddress.lookup candidate = none then some candidate
  else if candidate = m.lastAddress then none
  else findFree m (candidate + 1)
termination_by (m.lastAddress - candidate).toNat
decreasing_by
  rename_i hne
  have hne' : candidate.toNat ≠ m.lastAddress.toNat := fun h => hne (UInt32.toNat_inj.mp h)
  have hc := candidate.toNat_lt
  have hl := m.lastAddress.toNat_lt
  have hone : (1 : UInt32).toNat = 1 := rfl
  simp only [UInt32.toNat_sub, UInt32.toNat_add, hone]
  omega

/-- The body of the search loop at the free address it stopped at. Both keys are absent there, so
`emplace` inserts. -/
def allocate (m : LeaseManager) (identity : Bytes) (now : TimePoint) (candidate : UInt32) :
    Except Exception Lease × LeaseManager :=
  if m.nextLeaseId = 0 then
    (.error (.runtimeError (text "virtual IP lease generation is exhausted")), m)
  else
    let ipv4 := fromInteger candidate
    let ipv6 := m.deriveIpv6 ipv4
    if m.ipv6PrefixLength ≠ 0 ∧ ipv6 = m.ipv6Gateway then
      (.error (.runtimeError (text "derived IPv6 lease collides with gateway address")), m)
    else
      let lease : Lease := ⟨m.nextLeaseId, identity, ipv4, ipv6, m.expiry now⟩
      (.ok lease, { m with
        nextLeaseId := m.nextLeaseId + 1
        leasesByIdentity := m.leasesByIdentity.insert identity lease
        identityByAddress := m.identityByAddress.insert candidate identity })

def acquire (m : LeaseManager) (identity : Bytes) (now : TimePoint) :
    Except Exception Lease × LeaseManager :=
  if identity = [] then (.error (.invalidArgument (text "lease identity must not be empty")), m)
  else
    let m := (m.reapExpiredLocked now).2
    if m.leasesByIdentity.lookup identity ≠ none then
      (.error (.runtimeError (text "identity already has an active virtual IP lease")), m)
    else
      match m.findFree m.firstAddress with
      | some candidate => m.allocate identity now candidate
      | none => (.error (.runtimeError (text "virtual IP lease pool is exhausted")), m)

def findByIdentity (m : LeaseManager) (identity : Bytes) (now : TimePoint) :
    Option Lease × LeaseManager :=
  let m := (m.reapExpiredLocked now).2
  (m.leasesByIdentity.lookup identity, m)

/-- The entry that `renew` and `release` accept as the lease they were given. -/
def matching (m : LeaseManager) (expected : Lease) : Option Lease :=
  match m.leasesByIdentity.lookup expected.identity with
  | none => none
  | some lease =>
    if lease.leaseId ≠ expected.leaseId ∨ lease.address ≠ expected.address then none
    else some lease

def renew (m : LeaseManager) (expectedLease : Lease) (now : TimePoint) :
    Option Lease × LeaseManager :=
  let m := (m.reapExpiredLocked now).2
  match m.matching expectedLease with
  | none => (none, m)
  | some lease =>
    let renewed := { lease with expiresAt := m.expiry now }
    (some renewed,
      { m with leasesByIdentity := m.leasesByIdentity.insert expectedLease.identity renewed })

def owns (m : LeaseManager) (identity : Bytes) (address : Ipv4Address) (now : TimePoint) :
    Bool × LeaseManager :=
  let m := (m.reapExpiredLocked now).2
  match m.leasesByIdentity.lookup identity with
  | none => (false, m)
  | some lease => (lease.address == address, m)

def release (m : LeaseManager) (expectedLease : Lease) : Bool × LeaseManager :=
  match m.matching expectedLease with
  | none => (false, m)
  | some lease =>
    (true, { m with
      identityByAddress := m.identityByAddress.erase (toInteger lease.address)
      leasesByIdentity := m.leasesByIdentity.erase expectedLease.identity })

def reapExpired (m : LeaseManager) (now : TimePoint) : Nat × LeaseManager :=
  m.reapExpiredLocked now

def activeCount (m : LeaseManager) (now : TimePoint) : Nat × LeaseManager :=
  let m := (m.reapExpiredLocked now).2
  (m.leasesByIdentity.entries.length, m)

/-- The subtraction is the source's, on unsigned 64-bit integers. -/
def availableCount (m : LeaseManager) (now : TimePoint) : UInt64 × LeaseManager :=
  let m := (m.reapExpiredLocked now).2
  let capacity := m.lastAddress.toUInt64 - m.firstAddress.toUInt64 + 1
  (capacity - UInt64.ofNat m.leasesByIdentity.entries.length, m)

def toAssignment (m : LeaseManager) (lease : Lease) : IpAssignment where
  clientAddress := lease.address
  gatewayAddress := m.gatewayAddress
  prefixLength := m.prefixLength
  mtu := m.mtu
  leaseSeconds := UInt32.ofInt m.leaseDuration
  clientIpv6Address := lease.ipv6Address
  gatewayIpv6Address := m.ipv6Gateway
  ipv6PrefixLength := m.ipv6PrefixLength

end LeaseManager

end PersonalVpn.Core
