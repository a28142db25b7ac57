import Mathlib.Data.List.AList
import PersonalVpn.Core.LeaseManager
import PersonalVpn.Core.Packet

namespace PersonalVpn.Core

/-- The owner of every routed address. A peer stands for a `std::weak_ptr` to it, which can be
locked while the peer is `active`. -/
structure TunnelRouter (ι : Type) where
  peers : AList fun _ : UInt32 => ι := ∅
  ipv6Peers : AList fun _ : Ipv6Address => ι := ∅

namespace TunnelRouter

variable {ι κ : Type} [DecidableEq ι] [DecidableEq κ]

def addressKey (address : Ipv4Address) : UInt32 :=
  ((address.get 0).toUInt32 <<< 24) ||| ((address.get 1).toUInt32 <<< 16) |||
    ((address.get 2).toUInt32 <<< 8) ||| (address.get 3).toUInt32

/-- `register_peer` on one of the two maps. -/
def registerAt (active : ι → Bool) (peers : AList fun _ : κ => ι) (key : κ) (peer : ι) :
    Bool × AList fun _ : κ => ι :=
  match peers.lookup key with
  | some existing =>
    if active existing then (decide (existing = peer), peers)
    else (true, (peers.erase key).insert key peer)
  | none => (true, peers.insert key peer)

/-- `unregister_peer` on one of the two maps. -/
def unregisterAt (active : ι → Bool) (peers : AList fun _ : κ => ι) (key : κ) (expected : ι) :
    Bool × AList fun _ : κ => ι :=
  match peers.lookup key with
  | none => (false, peers)
  | some existing =>
    if active existing ∧ existing ≠ expected then (false, peers) else (true, peers.erase key)

def registerPeer (r : TunnelRouter ι) (active : ι → Bool) (address : Ipv4Address) (peer : ι) :
    Bool × TunnelRouter ι :=
  let (registered, peers) := registerAt active r.peers (addressKey address) peer
  (registered, { r with peers })

def unregisterPeer (r : TunnelRouter ι) (active : ι → Bool) (address : Ipv4Address)
    (expected : ι) : Bool × TunnelRouter ι :=
  let (erased, peers) := unregisterAt active r.peers (addressKey address) expected
  (erased, { r with peers })

/-- `register_peer` of an IPv6 address. -/
def registerIpv6Peer (r : TunnelRouter ι) (active : ι → Bool) (address : Ipv6Address)
    (peer : ι) : Bool × TunnelRouter ι :=
  let (registered, ipv6Peers) := registerAt active r.ipv6Peers address peer
  (registered, { r with ipv6Peers })

/-- `unregister_peer` of an IPv6 address. -/
def unregisterIpv6Peer (r : TunnelRouter ι) (active : ι → Bool) (address : Ipv6Address)
    (expected : ι) : Bool × TunnelRouter ι :=
  let (erased, ipv6Peers) := unregisterAt active r.ipv6Peers address expected
  (erased, { r with ipv6Peers })

/-- The look-up of `find_peer` and of `route_ipv6_packet`, on one of the two maps. -/
def findAt (active : ι → Bool) (peers : AList fun _ : κ => ι) (key : κ) :
    Option ι × AList fun _ : κ => ι :=
  match peers.lookup key with
  | none => (none, peers)
  | some peer => if active peer then (some peer, peers) else (none, peers.erase key)

def findPeer (r : TunnelRouter ι) (active : ι → Bool) (address : Ipv4Address) :
    Option ι × TunnelRouter ι :=
  let (peer, peers) := findAt active r.peers (addressKey address)
  (peer, { r with peers })

/-- What a `route_…_packet` returns, and the packets that it hands to peers. -/
structure Routed (ι : Type) where
  routed : Bool
  sent : List (ι × Bytes)
  deriving DecidableEq, Repr

/-- The end of a `route_…_packet`. -/
def deliver (peer : Option ι) (packet : Bytes) : Routed ι :=
  match peer with
  | none => ⟨false, []⟩
  | some peer => ⟨true, [(peer, packet)]⟩

def routeIpv4Packet (r : TunnelRouter ι) (active : ι → Bool) (packet : Bytes) :
    Routed ι × TunnelRouter ι :=
  if packet.length < 20 then (⟨false, []⟩, r)
  else if packetVersion packet ≠ 4 ∨ ipv4HeaderLength packet < 20 ∨
      ipv4HeaderLength packet > packet.length ∨ lengthField packet 2 ≠ packet.length then
    (⟨false, []⟩, r)
  else
    let (peer, r) := r.findPeer active (ipv4Destination packet)
    (deliver peer packet, r)

def routeIpv6Packet (r : TunnelRouter ι) (active : ι → Bool) (packet : Bytes) :
    Routed ι × TunnelRouter ι :=
  if packet.length < 40 ∨ packetVersion packet ≠ 6 then (⟨false, []⟩, r)
  else if lengthField packet 4 + 40 ≠ packet.length then (⟨false, []⟩, r)
  else
    let (peer, ipv6Peers) := findAt active r.ipv6Peers (ipv6Destination packet)
    (deliver peer packet, { r with ipv6Peers })

/-- A loop of `remove_expired_locked`. -/
def removeExpiredAt (active : ι → Bool) (peers : AList fun _ : κ => ι) : AList fun _ : κ => ι :=
  peers.keys.foldl (fun remaining key => (findAt active remaining key).2) peers

def removeExpired (r : TunnelRouter ι) (active : ι → Bool) : TunnelRouter ι where
  peers := removeExpiredAt active r.peers
  ipv6Peers := removeExpiredAt active r.ipv6Peers

def activeRoutes (r : TunnelRouter ι) (active : ι → Bool) : Nat × TunnelRouter ι :=
  let r := r.removeExpired active
  (r.peers.entries.length + r.ipv6Peers.entries.length, r)

/-- Only a live entry of somebody else stands in the way of a registration. -/
theorem registerAt_fst {active : ι → Bool} {peers : AList fun _ : κ => ι} {key : κ} {peer : ι} :
    (registerAt active peers key peer).1 = true ↔
      ∀ j, peers.lookup key = some j → active j = true → j = peer := by
  unfold registerAt
  cases hk : peers.lookup key with
  | none => simp
  | some existing =>
    by_cases ha : active existing = true
    · simp [ha]
    · simp [ha]

theorem registerAt_lookup {active : ι → Bool} {peers : AList fun _ : κ => ι} {key : κ} {peer : ι}
    (k : κ) : (registerAt active peers key peer).2.lookup k =
      if k = key ∧ (registerAt active peers key peer).1 = true then some peer
      else peers.lookup k := by
  unfold registerAt
  by_cases hkey : k = key
  · rw [hkey]
    cases hk : peers.lookup key with
    | none => simp
    | some existing =>
      by_cases ha : active existing = true
      · simp only [ha, if_true, hk, decide_eq_true_eq, true_and]
        by_cases hp : existing = peer
        · rw [if_pos hp, hp]
        · rw [if_neg hp]
      · simp [ha]
  · cases hk : peers.lookup key with
    | none => simp [hkey, AList.lookup_insert_ne hkey]
    | some existing =>
      by_cases ha : active existing = true
      · simp [ha, hkey]
      · simp [ha, hkey, AList.lookup_insert_ne hkey, AList.lookup_erase_ne hkey]

/-- Unregistering removes entries under the address only, and none but those of the peer or of a
dead one. -/
theorem unregisterAt_lookup {active : ι → Bool} {peers : AList fun _ : κ => ι} {key k : κ}
    {peer j : ι} : (unregisterAt active peers key peer).2.lookup k = some j ↔
      peers.lookup k = some j ∧ (k = key → active j = true ∧ j ≠ peer) := by
  unfold unregisterAt
  by_cases hkey : k = key
  · rw [hkey]
    cases hk : peers.lookup key with
    | none => simp [hk]
    | some existing =>
      dsimp only
      by_cases ha : active existing = true ∧ existing ≠ peer
      · rw [if_pos ha, hk]
        constructor
        · intro h
          cases h
          exact ⟨rfl, fun _ => ha⟩
        · exact fun h => h.1
      · rw [if_neg ha]
        simp only [AList.lookup_erase, reduceCtorEq, false_iff, not_and]
        intro h
        cases h
        exact fun h => ha (h trivial)
  · cases hk : peers.lookup key with
    | none => simp [hkey]
    | some existing =>
      by_cases ha : active existing = true ∧ existing ≠ peer
      · simp [ha, hkey]
      · simp [ha, hkey, AList.lookup_erase_ne hkey]

end TunnelRouter

end PersonalVpn.Core
