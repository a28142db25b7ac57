import PersonalVpn.Core.Greeting
import PersonalVpn.Core.LeaseRuns

namespace PersonalVpn.Core

namespace LeasePolicy

variable {p : LeasePolicy}

/-- The bits of an address below the prefix. -/
def hostBits (p : LeasePolicy) : Nat := 32 - p.prefixLength.toNat

/-- The bits of the prefix, as a number. -/
def prefixOf (p : LeasePolicy) (address : UInt32) : Nat := address.toNat / 2 ^ p.hostBits

/-- The bits below the prefix, as a number. -/
def hostOf (p : LeasePolicy) (address : UInt32) : Nat := address.toNat % 2 ^ p.hostBits

theorem address_eq (p : LeasePolicy) (address : UInt32) :
    address.toNat = p.prefixOf address * 2 ^ p.hostBits + p.hostOf address := by
  rw [prefixOf, hostOf, Nat.mul_comm, Nat.div_add_mod]

theorem Valid.toNat_network (hp : p.Valid) :
    p.network.toNat = p.prefixOf (toInteger p.gatewayAddress) * 2 ^ p.hostBits := by
  obtain ⟨hmask, hk⟩ := prefixMask_eq hp.prefix_pos hp.prefix_le
  rw [network, hmask, Mask.toNat_and_high _ hk]
  rfl

theorem Valid.toNat_broadcast (hp : p.Valid) :
    p.broadcast.toNat =
      p.prefixOf (toInteger p.gatewayAddress) * 2 ^ p.hostBits + (2 ^ p.hostBits - 1) := by
  obtain ⟨hmask, hk⟩ := prefixMask_eq hp.prefix_pos hp.prefix_le
  rw [broadcast, network, hmask, Mask.toNat_or_not_high _ hk]
  rfl

/-- Every address between the two ends of the pool has the prefix of the gateway. -/
theorem Valid.prefixOf_mem (hp : p.Valid) {x : UInt32} (hfirst : p.firstAddress ≤ x)
    (hlast : x ≤ p.lastAddress) : p.prefixOf x = p.prefixOf (toInteger p.gatewayAddress) := by
  obtain ⟨hmask, hk⟩ := prefixMask_eq hp.prefix_pos hp.prefix_le
  have hsubnet := hp.subnet_of_mem hfirst hlast
  have hnetwork := hp.toNat_network
  rw [← hsubnet, hmask, Mask.toNat_and_high x hk] at hnetwork
  exact Nat.eq_of_mul_eq_mul_right (Nat.two_pow_pos _) hnetwork

/-- In a subnet with room for them, the pool has neither the all-zeros nor the all-ones host. -/
theorem Valid.hostOf_mem (hp : p.Valid) (hshort : p.prefixLength ≤ 30) {x : UInt32}
    (hfirst : p.firstAddress ≤ x) (hlast : x ≤ p.lastAddress) :
    p.hostOf x ≠ 0 ∧ p.hostOf x ≠ 2 ^ p.hostBits - 1 := by
  obtain ⟨hlow, hhigh⟩ := hp.hosts hshort
  have hnetwork : p.network.toNat < p.firstAddress.toNat := UInt32.lt_iff_toNat_lt.mp hlow
  have hbroadcast : p.lastAddress.toNat < p.broadcast.toNat := UInt32.lt_iff_toNat_lt.mp hhigh
  have hx := p.address_eq x
  rw [hp.prefixOf_mem hfirst hlast] at hx
  rw [UInt32.le_iff_toNat_le] at hfirst hlast
  rw [hp.toNat_network] at hnetwork
  rw [hp.toNat_broadcast] at hbroadcast
  omega

end LeasePolicy

namespace LeaseManager

/-- What the policy promises of the address of a lease. -/
structure Sound (p : LeasePolicy) (l : Lease) : Prop where
  gateway : l.address ≠ p.gatewayAddress
  subnet : p.prefixOf (toInteger l.address) = p.prefixOf (toInteger p.gatewayAddress)
  host : p.prefixLength ≤ 30 → p.hostOf (toInteger l.address) ≠ 0 ∧
    p.hostOf (toInteger l.address) ≠ 2 ^ p.hostBits - 1
  ipv6Subnet : p.ipv6PrefixLength ≠ 0 →
    p.ipv6PrefixLength = 64 ∧ l.ipv6Address.toList.take 8 = p.ipv6Prefix.toList.take 8
  ipv6Gateway : p.ipv6PrefixLength ≠ 0 → l.ipv6Address ≠ p.ipv6Gateway

theorem Leased.sound {m : LeaseManager} {l : Lease} (h : m.Leased l) : Sound m.toLeasePolicy l where
  gateway heq := by
    have hfirst := h.first
    have hlast := h.last
    rw [heq] at hfirst hlast
    exact absurd (h.policy.outside hfirst) (UInt32.not_lt.mpr hlast)
  subnet := h.policy.prefixOf_mem h.first h.last
  host hshort := h.policy.hostOf_mem hshort h.first h.last
  ipv6Subnet h6 := by
    refine ⟨(h.policy.ipv6 h6).1, ?_⟩
    rw [h.ipv6]
    exact LeasePolicy.take_deriveIpv6 h6 l.address
  ipv6Gateway := h.gateway

/-- Every lease of every run has an address in the subnet of the gateway that is neither the gateway
nor, where there is room, the network or broadcast address, and an IPv6 address in the configured /64
that is not the gateway and tells the IPv4 address. -/
theorem pool_policy_sound {first last gateway : Ipv4Address} {prefixLength : UInt8}
    {mtu : UInt16} {duration : Int} {v6Prefix v6Gateway : Ipv6Address} {v6Length : UInt8}
    {m₀ : LeaseManager}
    (h₀ : create first last gateway prefixLength mtu duration v6Prefix v6Gateway v6Length = .ok m₀) :
    (∀ calls identity now l, ((Run.run call m₀ calls).acquire identity now).1 = .ok l →
      Sound m₀.toLeasePolicy l) ∧
    (v6Length ≠ 0 → ∀ calls calls' identity identity' now now' l l',
      ((Run.run call m₀ calls).acquire identity now).1 = .ok l →
      ((Run.run call m₀ calls').acquire identity' now').1 = .ok l' →
      l.ipv6Address = l'.ipv6Address → l.address = l'.address) := by
  have hinv₀ := inv_create h₀
  have hleased (calls : List LeaseCall) (identity : Bytes) (now : TimePoint) (l : Lease)
      (hok : ((Run.run call m₀ calls).acquire identity now).1 = .ok l) :
      ∃ m : LeaseManager, m.Leased l ∧ m.toLeasePolicy = m₀.toLeasePolicy := by
    obtain ⟨hl, hpolicy⟩ := (inv_run hinv₀ calls).leased (Prod.ext hok rfl)
    exact ⟨_, hl, hpolicy.trans (policy_run hinv₀ calls)⟩
  constructor
  · intro calls identity now l hok
    obtain ⟨m, hl, hpolicy⟩ := hleased calls identity now l hok
    rw [← hpolicy]
    exact hl.sound
  · intro h6 calls calls' identity identity' now now' l l' hok hok' heq
    obtain ⟨m, hl, hpolicy⟩ := hleased calls identity now l hok
    obtain ⟨m', hl', hpolicy'⟩ := hleased calls' identity' now' l' hok'
    have hv6 : m₀.ipv6PrefixLength ≠ 0 := by
      obtain ⟨rfl, -⟩ := create_ok_iff.mp h₀
      exact h6
    rw [hl.ipv6, hl'.ipv6, hpolicy, hpolicy'] at heq
    exact deriveIpv6_inj hv6 heq

/-- The lease of the one-address pool. -/
theorem pool_policy_sound_single : Sound (singleManager 1).toLeasePolicy (singleLease 1) := by
  have hok : ((Run.run call (singleManager 1) []).acquire (text "c") 0).1 = .ok (singleLease 1) := by
    rw [Run.run_nil, acquire_single (by decide)]
  exact (pool_policy_sound create_single).1 [] (text "c") 0 (singleLease 1) hok

end LeaseManager

end PersonalVpn.Core
