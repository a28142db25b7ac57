import Mathlib.Data.Finset.Dedup
import PersonalVpn.Core.LeaseInvariant
import PersonalVpn.Core.TunnelRouter
import PersonalVpn.Lib.Ownership
import PersonalVpn.Lib.Run

namespace PersonalVpn.Core

namespace TunnelRouter

section Maps

variable {ι κ : Type} [DecidableEq κ] {active : ι → Bool}
  {peers : AList fun _ : κ => ι} {key k : κ} {peer : ι}

/-- The live owner of a key in one of the two maps. -/
def liveAt (active : ι → Bool) (peers : AList fun _ : κ => ι) (key : κ) : Option ι :=
  (peers.lookup key).filter active

theorem liveAt_eq_some_iff :
    liveAt active peers key = some peer ↔ peers.lookup key = some peer ∧ active peer = true :=
  Option.filter_eq_some_iff

section Owners

variable [DecidableEq ι]

/-- The death of a peer takes its keys away from it, and nobody else's. -/
theorem liveAt_update : liveAt (Function.update active peer false) peers key =
    (liveAt active peers key).filter (· ≠ peer) := by
  rw [liveAt, liveAt, Option.filter_filter]
  congr 1
  funext j
  by_cases hj : j = peer
  · simp [hj]
  · simp [hj]

/-- A key is free for a peer unless another live peer owns it. -/
theorem registerAt_eq : (registerAt active peers key peer).1 =
    decide (liveAt active peers key = none ∨ liveAt active peers key = some peer) := by
  unfold registerAt liveAt
  cases hk : peers.lookup key with
  | none => simp
  | some existing => cases ha : active existing <;> simp [Option.filter, ha]

theorem liveAt_registerAt : liveAt active (registerAt active peers key peer).2 k =
    if k = key ∧ (liveAt active peers key = none ∨ liveAt active peers key = some peer) ∧
      active peer = true then some peer else liveAt active peers k := by
  have hfst : (registerAt active peers key peer).1 =
      decide (liveAt active peers key = none ∨ liveAt active peers key = some peer) :=
    registerAt_eq
  rw [liveAt, registerAt_lookup]
  by_cases hk : k = key
  · by_cases hfree : liveAt active peers key = none ∨ liveAt active peers key = some peer
    · have hdone : (registerAt active peers key peer).1 = true := by rw [hfst]; simpa using hfree
      cases hp : active peer with
      | true => simp [hk, hdone, hfree, hp]
      | false =>
        -- a dead peer's entry is as good as none
        have hnone : liveAt active peers key = none := by
          obtain hnone | hown := hfree
          · exact hnone
          · have hlive := (liveAt_eq_some_iff.mp hown).2
            simp [hp] at hlive
        simp [hk, hdone, hp, hnone]
    · have hdone : (registerAt active peers key peer).1 = false := by rw [hfst]; simpa using hfree
      rw [if_neg (by simp [hdone]), if_neg (by tauto)]
      rfl
  · rw [if_neg (by tauto), if_neg (by tauto)]
    rfl

theorem unregisterAt_eq (h : liveAt active peers key ≠ none) :
    (unregisterAt active peers key peer).1 = decide (liveAt active peers key = some peer) := by
  obtain ⟨owner, howner⟩ := Option.ne_none_iff_exists'.mp h
  obtain ⟨hlookup, hactive⟩ := liveAt_eq_some_iff.mp howner
  rw [howner, unregisterAt, hlookup]
  by_cases hp : owner = peer <;> simp [hactive, hp]

theorem liveAt_unregisterAt : liveAt active (unregisterAt active peers key peer).2 k =
    if k = key ∧ liveAt active peers key = some peer then none else liveAt active peers k := by
  apply Option.ext
  intro j
  have hleft : liveAt active (unregisterAt active peers key peer).2 k = some j ↔
      liveAt active peers k = some j ∧ (k = key → j ≠ peer) := by
    rw [liveAt_eq_some_iff, unregisterAt_lookup, liveAt_eq_some_iff]
    tauto
  rw [hleft]
  by_cases hk : k = key
  · rw [hk]
    by_cases hown : liveAt active peers key = some peer
    · simp [hown, eq_comm]
    · rw [if_neg (by tauto)]
      constructor
      · exact fun h => h.1
      · intro h
        refine ⟨h, fun _ hj => hown ?_⟩
        rw [h, hj]
  · rw [if_neg (by tauto)]
    simp [hk]

end Owners

theorem findAt_fst : (findAt active peers key).1 = liveAt active peers key := by
  unfold findAt liveAt
  cases hk : peers.lookup key with
  | none => rfl
  | some peer => cases ha : active peer <;> simp [Option.filter, ha]

/-- Looking for an owner drops an entry at most, and that of a dead peer. -/
theorem findAt_lookup : (findAt active peers key).2.lookup k =
    if k = key then liveAt active peers key else peers.lookup k := by
  unfold findAt liveAt
  by_cases hkey : k = key
  · rw [hkey, if_pos rfl]
    cases hk : peers.lookup key with
    | none => simp [hk]
    | some peer => cases ha : active peer <;> simp [Option.filter, ha, hk]
  · rw [if_neg hkey]
    cases hk : peers.lookup key with
    | none => rfl
    | some peer => cases ha : active peer <;> simp [ha, AList.lookup_erase_ne hkey]

theorem liveAt_findAt : liveAt active (findAt active peers key).2 k = liveAt active peers k := by
  rw [liveAt, findAt_lookup]
  split_ifs with hkey
  · rw [hkey, liveAt]
    cases peers.lookup key with
    | none => rfl
    | some peer => cases ha : active peer <;> simp [Option.filter, ha]
  · rfl

theorem findAt_run_lookup (keys : List κ) :
    (keys.foldl (fun remaining key => (findAt active remaining key).2) peers).lookup k =
      if k ∈ keys then liveAt active peers k else peers.lookup k := by
  induction keys generalizing peers with
  | nil => simp
  | cons key keys ih =>
    rw [List.foldl_cons, ih, liveAt_findAt, findAt_lookup]
    by_cases hmem : k ∈ keys
    · simp [hmem]
    · by_cases hkey : k = key
      · simp [hkey]
      · simp [hmem, hkey]

/-- What is left in a map is what is live. -/
theorem removeExpiredAt_lookup : (removeExpiredAt active peers).lookup k = liveAt active peers k := by
  rw [removeExpiredAt, findAt_run_lookup]
  split_ifs with hmem
  · rfl
  · have hnone : peers.lookup k = none := AList.lookup_eq_none.mpr hmem
    rw [liveAt, hnone]
    rfl

theorem liveAt_removeExpiredAt :
    liveAt active (removeExpiredAt active peers) k = liveAt active peers k := by
  rw [liveAt, removeExpiredAt_lookup, liveAt, Option.filter_filter]
  simp

/-- The keys with a live owner. -/
def liveKeys (active : ι → Bool) (peers : AList fun _ : κ => ι) : Set κ :=
  {key | liveAt active peers key ≠ none}

theorem liveKeys_eq : liveKeys active peers = (removeExpiredAt active peers).keys.toFinset := by
  ext k
  rw [List.coe_toFinset, Set.mem_ofPred_eq, liveKeys, Set.mem_ofPred_eq, ← removeExpiredAt_lookup,
    ne_eq, AList.lookup_eq_none, not_not]
  exact AList.mem_keys

theorem removeExpiredAt_length :
    (removeExpiredAt active peers).entries.length = (liveKeys active peers).ncard := by
  have hnodup := (removeExpiredAt active peers).keys_nodup
  rw [liveKeys_eq, Set.ncard_coe_finset, List.toFinset_card_of_nodup hnodup]
  simp [AList.keys, List.keys]

theorem finite_liveKeys : (liveKeys active peers).Finite := by
  rw [liveKeys_eq]
  exact Finset.finite_toSet _

end Maps

end TunnelRouter

open TunnelRouter

inductive TunnelAddress where
  | ipv4 (address : Ipv4Address)
  | ipv6 (address : Ipv6Address)
  deriving DecidableEq

/-- A call of the router, or the death of a peer. A null pointer is `none`. -/
inductive RouterCall (ι : Type) where
  | registerPeer (address : TunnelAddress) (peer : Option ι)
  | unregisterPeer (address : TunnelAddress) (expectedPeer : Option ι)
  | findPeer (address : Ipv4Address)
  | routeIpv4Packet (packet : Bytes)
  | routeIpv6Packet (packet : Bytes)
  | activeRoutes
  | die (peer : ι)

inductive RouterAnswer (ι : Type) where
  | returned (result : Bool)
  | found (peer : Option ι)
  | routed (result : Routed ι)
  | counted (routes : Nat)
  | done

/-- The router, and the peers that can still be locked. -/
structure RouterWorld (ι : Type) where
  router : TunnelRouter ι := {}
  alive : ι → Bool

variable {ι : Type} [DecidableEq ι]

def RouterWorld.call (w : RouterWorld ι) : RouterCall ι → RouterAnswer ι × RouterWorld ι
  | .registerPeer _ none => (.returned false, w)
  | .registerPeer (.ipv4 address) (some peer) =>
    let (registered, router) := w.router.registerPeer w.alive address peer
    (.returned registered, { w with router })
  | .registerPeer (.ipv6 address) (some peer) =>
    let (registered, router) := w.router.registerIpv6Peer w.alive address peer
    (.returned registered, { w with router })
  | .unregisterPeer _ none => (.returned false, w)
  | .unregisterPeer (.ipv4 address) (some expectedPeer) =>
    let (erased, router) := w.router.unregisterPeer w.alive address expectedPeer
    (.returned erased, { w with router })
  | .unregisterPeer (.ipv6 address) (some expectedPeer) =>
    let (erased, router) := w.router.unregisterIpv6Peer w.alive address expectedPeer
    (.returned erased, { w with router })
  | .findPeer address =>
    let (peer, router) := w.router.findPeer w.alive address
    (.found peer, { w with router })
  | .routeIpv4Packet packet =>
    let (result, router) := w.router.routeIpv4Packet w.alive packet
    (.routed result, { w with router })
  | .routeIpv6Packet packet =>
    let (result, router) := w.router.routeIpv6Packet w.alive packet
    (.routed result, { w with router })
  | .activeRoutes =>
    let (routes, router) := w.router.activeRoutes w.alive
    (.counted routes, { w with router })
  | .die peer => (.done, { w with alive := Function.update w.alive peer false })

/-- The abstract router: a map from addresses to the live peers that own them. -/
noncomputable def ownersCall (o : Ownership TunnelAddress ι) :
    RouterCall ι → RouterAnswer ι × Ownership TunnelAddress ι
  | .registerPeer _ none => (.returned false, o)
  | .registerPeer address (some peer) =>
    (.returned (decide (o.Free address peer)), o.claim address peer)
  | .unregisterPeer _ none => (.returned false, o)
  | .unregisterPeer address (some expectedPeer) =>
    (.returned (decide (o.owner address = some expectedPeer)), o.release address expectedPeer)
  | .findPeer address => (.found (o.owner (.ipv4 address)), o)
  | .routeIpv4Packet packet =>
    (.routed (if IsIpv4 packet then deliver (o.owner (.ipv4 (ipv4Destination packet))) packet
      else ⟨false, []⟩), o)
  | .routeIpv6Packet packet =>
    (.routed (if IsIpv6 packet then deliver (o.owner (.ipv6 (ipv6Destination packet))) packet
      else ⟨false, []⟩), o)
  | .activeRoutes => (.counted o.owned, o)
  | .die peer => (.done, o.bury peer)

/-- The entry of an address, of a live peer or of a dead one. -/
def TunnelRouter.entry (r : TunnelRouter ι) : TunnelAddress → Option ι
  | .ipv4 address => r.peers.lookup (addressKey address)
  | .ipv6 address => r.ipv6Peers.lookup address

/-- What the router's entries come to: dead peers own nothing. -/
def RouterWorld.owners (w : RouterWorld ι) : Ownership TunnelAddress ι where
  alive := w.alive
  owner := fun address => (w.router.entry address).filter w.alive
  owner_alive := fun _ _ h => (Option.filter_eq_some_iff.mp h).2

namespace RouterWorld

section Owners

omit [DecidableEq ι]

variable {w : RouterWorld ι}

@[simp] theorem owners_alive : w.owners.alive = w.alive := rfl

@[simp] theorem owner_ipv4 (address : Ipv4Address) :
    w.owners.owner (.ipv4 address) = liveAt w.alive w.router.peers (addressKey address) := rfl

@[simp] theorem owner_ipv6 (address : Ipv6Address) :
    w.owners.owner (.ipv6 address) = liveAt w.alive w.router.ipv6Peers address := rfl

theorem addressKey_bijective : Function.Bijective addressKey :=
  ⟨toInteger_injective, fun x => ⟨fromInteger x, toInteger_fromInteger x⟩⟩

/-- Two worlds with the same living peers and the same live owners are one to the abstract map. -/
theorem owners_eq {o : Ownership TunnelAddress ι} (halive : w.alive = o.alive)
    (h4 : ∀ a, liveAt w.alive w.router.peers (addressKey a) = o.owner (.ipv4 a))
    (h6 : ∀ a, liveAt w.alive w.router.ipv6Peers a = o.owner (.ipv6 a)) : w.owners = o := by
  ext address
  · rw [← halive]
    rfl
  · cases address with
    | ipv4 a => rw [owner_ipv4, h4]
    | ipv6 a => rw [owner_ipv6, h6]

/-- `active_routes` counts the addresses with an owner. -/
theorem activeRoutes_eq : (w.router.activeRoutes w.alive).1 = w.owners.owned := by
  have hinj := addressKey_bijective.injective
  generalize h4 : Set.preimage addressKey (liveKeys w.alive w.router.peers) = s4
  generalize h6 : liveKeys w.alive w.router.ipv6Peers = s6
  have howned : {a | w.owners.owner a ≠ none} = TunnelAddress.ipv4 '' s4 ∪ TunnelAddress.ipv6 '' s6 := by
    ext address
    rw [← h4, ← h6]
    cases address with
    | ipv4 a => simp [liveKeys]
    | ipv6 a => simp [liveKeys]
  have hdisjoint : Disjoint (TunnelAddress.ipv4 '' s4) (TunnelAddress.ipv6 '' s6) := by
    rw [Set.disjoint_left]
    intro address hleft hright
    obtain ⟨a, -, ha⟩ := hleft
    obtain ⟨b, -, hb⟩ := hright
    rw [← ha] at hb
    cases hb
  have hfinite4 : s4.Finite := by
    rw [← h4]
    exact finite_liveKeys.preimage hinj.injOn
  have hfinite6 : s6.Finite := by
    rw [← h6]
    exact finite_liveKeys
  have hcard4 : s4.ncard = (removeExpiredAt w.alive w.router.peers).entries.length := by
    rw [removeExpiredAt_length, ← h4]
    apply Set.ncard_preimage_of_injective_subset_range hinj
    simp [addressKey_bijective.surjective.range_eq]
  have hcard6 : s6.ncard = (removeExpiredAt w.alive w.router.ipv6Peers).entries.length := by
    rw [removeExpiredAt_length, h6]
  rw [Ownership.owned, howned, Set.ncard_union_eq hdisjoint (hfinite4.image _) (hfinite6.image _),
    Set.ncard_image_of_injective _ (fun a b h => by simpa using h),
    Set.ncard_image_of_injective _ (fun a b h => by simpa using h), hcard4, hcard6]
  rfl

theorem addressKey_eq_iff {a b : Ipv4Address} : addressKey a = addressKey b ↔ a = b :=
  addressKey_bijective.injective.eq_iff

/-- A structurally valid packet goes to the owner of its destination, and no other one anywhere. -/
theorem routeIpv4Packet_eq (packet : Bytes) : (w.router.routeIpv4Packet w.alive packet).1 =
    if IsIpv4 packet then deliver (w.owners.owner (.ipv4 (ipv4Destination packet))) packet
    else ⟨false, []⟩ := by
  have hvalid : IsIpv4 packet ↔ ¬packet.length < 20 ∧ ¬(packetVersion packet ≠ 4 ∨
      ipv4HeaderLength packet < 20 ∨ ipv4HeaderLength packet > packet.length ∨
      lengthField packet 2 ≠ packet.length) := by
    rw [isIpv4_iff]
    simp only [not_or, not_lt, ne_eq, not_not]
    tauto
  have hfind : (w.router.findPeer w.alive (ipv4Destination packet)).1 =
      w.owners.owner (.ipv4 (ipv4Destination packet)) := findAt_fst
  unfold routeIpv4Packet
  rw [← hfind]
  split_ifs with hsize hheader h h
  · tauto
  · rfl
  · tauto
  · rfl
  · rfl
  · tauto

theorem routeIpv6Packet_eq (packet : Bytes) : (w.router.routeIpv6Packet w.alive packet).1 =
    if IsIpv6 packet then deliver (w.owners.owner (.ipv6 (ipv6Destination packet))) packet
    else ⟨false, []⟩ := by
  have hvalid : IsIpv6 packet ↔ ¬(packet.length < 40 ∨ packetVersion packet ≠ 6) ∧
      ¬lengthField packet 4 + 40 ≠ packet.length := by
    rw [isIpv6_iff]
    simp only [not_or, not_lt, ne_eq, not_not]
    tauto
  have hfind : (findAt w.alive w.router.ipv6Peers (ipv6Destination packet)).1 =
      w.owners.owner (.ipv6 (ipv6Destination packet)) := findAt_fst
  unfold routeIpv6Packet
  rw [← hfind]
  split_ifs with hsize hlength h h
  · tauto
  · rfl
  · tauto
  · rfl
  · rfl
  · tauto

end Owners

variable {w : RouterWorld ι}

/-- The router's own answer: whether there was a dead entry to unregister. -/
def IsUnowned (o : Ownership TunnelAddress ι) : RouterCall ι → Prop
  | .unregisterPeer address _ => o.owner address = none
  | _ => False

/-- Every other answer is that of the abstract router. -/
theorem answer_call {call : RouterCall ι} (h : ¬IsUnowned w.owners call) :
    (w.call call).1 = (ownersCall w.owners call).1 := by
  cases call with
  | registerPeer address peer =>
    cases peer with
    | none => rfl
    | some peer =>
      cases address with
      | ipv4 address => exact congrArg RouterAnswer.returned registerAt_eq
      | ipv6 address => exact congrArg RouterAnswer.returned registerAt_eq
  | unregisterPeer address expectedPeer =>
    cases expectedPeer with
    | none => rfl
    | some expectedPeer =>
      cases address with
      | ipv4 address => exact congrArg RouterAnswer.returned (unregisterAt_eq h)
      | ipv6 address => exact congrArg RouterAnswer.returned (unregisterAt_eq h)
  | findPeer address => exact congrArg RouterAnswer.found findAt_fst
  | routeIpv4Packet packet => exact congrArg RouterAnswer.routed (routeIpv4Packet_eq packet)
  | routeIpv6Packet packet => exact congrArg RouterAnswer.routed (routeIpv6Packet_eq packet)
  | activeRoutes => exact congrArg RouterAnswer.counted activeRoutes_eq
  | die peer => rfl

/-- Every call does to the owners what the abstract router does. -/
theorem owners_call (call : RouterCall ι) :
    (w.call call).2.owners = (ownersCall w.owners call).2 := by
  cases call with
  | registerPeer address peer =>
    cases peer with
    | none => rfl
    | some peer =>
      cases address with
      | ipv4 address =>
        have h4 (a : Ipv4Address) : liveAt w.alive (registerAt w.alive w.router.peers
            (addressKey address) peer).2 (addressKey a) =
            (w.owners.claim (.ipv4 address) peer).owner (.ipv4 a) := by
          simp [liveAt_registerAt, Ownership.claim, Ownership.Free, addressKey_eq_iff]
        have h6 (a : Ipv6Address) : liveAt w.alive w.router.ipv6Peers a =
            (w.owners.claim (.ipv4 address) peer).owner (.ipv6 a) := by
          simp [Ownership.claim]
        exact owners_eq rfl h4 h6
      | ipv6 address =>
        have h4 (a : Ipv4Address) : liveAt w.alive w.router.peers (addressKey a) =
            (w.owners.claim (.ipv6 address) peer).owner (.ipv4 a) := by
          simp [Ownership.claim]
        have h6 (a : Ipv6Address) : liveAt w.alive (registerAt w.alive w.router.ipv6Peers
            address peer).2 a = (w.owners.claim (.ipv6 address) peer).owner (.ipv6 a) := by
          simp [liveAt_registerAt, Ownership.claim, Ownership.Free]
        exact owners_eq rfl h4 h6
  | unregisterPeer address expectedPeer =>
    cases expectedPeer with
    | none => rfl
    | some expectedPeer =>
      cases address with
      | ipv4 address =>
        have h4 (a : Ipv4Address) : liveAt w.alive (unregisterAt w.alive w.router.peers
            (addressKey address) expectedPeer).2 (addressKey a) =
            (w.owners.release (.ipv4 address) expectedPeer).owner (.ipv4 a) := by
          simp [liveAt_unregisterAt, Ownership.release, addressKey_eq_iff]
        have h6 (a : Ipv6Address) : liveAt w.alive w.router.ipv6Peers a =
            (w.owners.release (.ipv4 address) expectedPeer).owner (.ipv6 a) := by
          simp [Ownership.release]
        exact owners_eq rfl h4 h6
      | ipv6 address =>
        have h4 (a : Ipv4Address) : liveAt w.alive w.router.peers (addressKey a) =
            (w.owners.release (.ipv6 address) expectedPeer).owner (.ipv4 a) := by
          simp [Ownership.release]
        have h6 (a : Ipv6Address) : liveAt w.alive (unregisterAt w.alive w.router.ipv6Peers
            address expectedPeer).2 a =
            (w.owners.release (.ipv6 address) expectedPeer).owner (.ipv6 a) := by
          simp [liveAt_unregisterAt, Ownership.release]
        exact owners_eq rfl h4 h6
  | findPeer address => exact owners_eq rfl (fun _ => liveAt_findAt) (fun _ => rfl)
  | routeIpv4Packet packet =>
    simp only [call, routeIpv4Packet]
    split_ifs
    · rfl
    · rfl
    · exact owners_eq rfl (fun _ => liveAt_findAt) (fun _ => rfl)
  | routeIpv6Packet packet =>
    simp only [call, routeIpv6Packet]
    split_ifs
    · rfl
    · rfl
    · exact owners_eq rfl (fun _ => rfl) (fun _ => liveAt_findAt)
  | activeRoutes =>
    exact owners_eq rfl (fun _ => liveAt_removeExpiredAt) (fun _ => liveAt_removeExpiredAt)
  | die peer => exact owners_eq rfl (fun _ => liveAt_update) (fun _ => liveAt_update)

def next (w : RouterWorld ι) (call : RouterCall ι) : RouterWorld ι := (w.call call).2

noncomputable def ownersNext (o : Ownership TunnelAddress ι) (call : RouterCall ι) :
    Ownership TunnelAddress ι := (ownersCall o call).2

theorem owners_run (calls : List (RouterCall ι)) :
    (Run.run next w calls).owners = Run.run ownersNext w.owners calls := by
  induction calls generalizing w with
  | nil => rfl
  | cons call calls ih =>
    have hstep : (w.next call).owners = ownersNext w.owners call := owners_call call
    rw [Run.run_cons, Run.run_cons, ih, hstep]

/-- The calls that deal with one family of addresses. -/
def IsIpv4Call : RouterCall ι → Prop
  | .registerPeer (.ipv4 _) _ => True
  | .unregisterPeer (.ipv4 _) _ => True
  | .findPeer _ => True
  | .routeIpv4Packet _ => True
  | _ => False

def IsIpv6Call : RouterCall ι → Prop
  | .registerPeer (.ipv6 _) _ => True
  | .unregisterPeer (.ipv6 _) _ => True
  | .routeIpv6Packet _ => True
  | _ => False

/-- A world with other entries in one of the maps. -/
def withIpv6Peers (w : RouterWorld ι) (other : AList fun _ : Ipv6Address => ι) : RouterWorld ι :=
  { w with router := { w.router with ipv6Peers := other } }

def withPeers (w : RouterWorld ι) (other : AList fun _ : UInt32 => ι) : RouterWorld ι :=
  { w with router := { w.router with peers := other } }

/-- A router that behaves like a map from addresses to their live owners. -/
structure OwnedBy (w : RouterWorld ι) (o : Ownership TunnelAddress ι) : Prop where
  owners : w.owners = o
  next : ∀ call, (w.next call).owners = (ownersCall o call).2
  answer : ∀ call, ¬IsUnowned o call → (w.call call).1 = (ownersCall o call).1
  /-- An address is registered if and only if nobody else owns it. -/
  register : ∀ address peer, w.alive peer = true →
    ((w.call (.registerPeer address (some peer))).1 = .returned true ↔
      o.owner address = none ∨ o.owner address = some peer) ∧
    ((w.call (.registerPeer address (some peer))).1 = .returned true →
      (w.next (.registerPeer address (some peer))).owners.owner address = some peer)
  /-- An owner loses its address by its death or when it is unregistered itself. -/
  keeps : ∀ call address owner, o.owner address = some owner → call ≠ .die owner →
    call ≠ .unregisterPeer address (some owner) →
      (w.next call).owners.owner address = some owner
  unregister : ∀ address owner other, o.owner address = some owner → owner ≠ other →
    (w.call (.unregisterPeer address (some other))).1 = .returned false ∧
      (w.next (.unregisterPeer address (some other))).router.entry address = some owner
  /-- The entry of a dead peer is not seen and stands in nobody's way. -/
  dead : ∀ address peer, w.router.entry address = some peer → w.alive peer = false →
    o.owner address = none ∧ ∀ other,
      (w.call (.registerPeer address (some other))).1 = .returned true
  find : ∀ address, (w.call (.findPeer address)).1 = .found (o.owner (.ipv4 address))
  count : (w.call .activeRoutes).1 = .counted {address | o.owner address ≠ none}.ncard
  ipv4Family : ∀ call other, IsIpv4Call call →
    (w.next call).router.ipv6Peers = w.router.ipv6Peers ∧
      ((w.withIpv6Peers other).call call).1 = (w.call call).1 ∧
      ((w.withIpv6Peers other).next call).router.peers = (w.next call).router.peers
  ipv6Family : ∀ call other, IsIpv6Call call →
    (w.next call).router.peers = w.router.peers ∧
      ((w.withPeers other).call call).1 = (w.call call).1 ∧
      ((w.withPeers other).next call).router.ipv6Peers = (w.next call).router.ipv6Peers
  /-- The owner of the destination of a valid packet gets it as it is. -/
  routeIpv4 : ∀ packet owner, IsIpv4 packet →
    o.owner (.ipv4 (ipv4Destination packet)) = some owner →
      (w.call (.routeIpv4Packet packet)).1 = .routed ⟨true, [(owner, packet)]⟩
  dropIpv4 : ∀ packet, ¬(IsIpv4 packet ∧ o.owner (.ipv4 (ipv4Destination packet)) ≠ none) →
    (w.call (.routeIpv4Packet packet)).1 = .routed ⟨false, []⟩
  routeIpv6 : ∀ packet owner, IsIpv6 packet →
    o.owner (.ipv6 (ipv6Destination packet)) = some owner →
      (w.call (.routeIpv6Packet packet)).1 = .routed ⟨true, [(owner, packet)]⟩
  dropIpv6 : ∀ packet, ¬(IsIpv6 packet ∧ o.owner (.ipv6 (ipv6Destination packet)) ≠ none) →
    (w.call (.routeIpv6Packet packet)).1 = .routed ⟨false, []⟩

/-- The abstract router takes an address from its owner only where it says so. -/
theorem ownersCall_keeps {o : Ownership TunnelAddress ι} {call : RouterCall ι}
    {address : TunnelAddress} {owner : ι} (h : o.owner address = some owner)
    (hdie : call ≠ .die owner) (hunregister : call ≠ .unregisterPeer address (some owner)) :
    (ownersCall o call).2.owner address = some owner := by
  cases call with
  | registerPeer address' peer =>
    cases peer with
    | none => exact h
    | some peer => exact Ownership.claim_owner_of_owned h
  | unregisterPeer address' expectedPeer =>
    cases expectedPeer with
    | none => exact h
    | some expectedPeer =>
      apply Ownership.release_owner_of_owned h
      intro haddress howner
      exact hunregister (by rw [haddress, howner])
  | findPeer address' => exact h
  | routeIpv4Packet packet => exact h
  | routeIpv6Packet packet => exact h
  | activeRoutes => exact h
  | die peer =>
    apply Ownership.bury_owner_of_owned h
    intro howner
    exact hdie (by rw [howner])

theorem ipv4_family {call : RouterCall ι} (h : IsIpv4Call call)
    (other : AList fun _ : Ipv6Address => ι) :
    (w.next call).router.ipv6Peers = w.router.ipv6Peers ∧
      ((w.withIpv6Peers other).call call).1 = (w.call call).1 ∧
      ((w.withIpv6Peers other).next call).router.peers = (w.next call).router.peers := by
  cases call with
  | registerPeer address peer =>
    cases address with
    | ipv4 address => cases peer <;> exact ⟨rfl, rfl, rfl⟩
    | ipv6 address => exact h.elim
  | unregisterPeer address expectedPeer =>
    cases address with
    | ipv4 address => cases expectedPeer <;> exact ⟨rfl, rfl, rfl⟩
    | ipv6 address => exact h.elim
  | findPeer address => exact ⟨rfl, rfl, rfl⟩
  | routeIpv4Packet packet =>
    simp only [next, call, routeIpv4Packet]
    split_ifs <;> exact ⟨rfl, rfl, rfl⟩
  | routeIpv6Packet packet => exact h.elim
  | activeRoutes => exact h.elim
  | die peer => exact h.elim

theorem ipv6_family {call : RouterCall ι} (h : IsIpv6Call call)
    (other : AList fun _ : UInt32 => ι) :
    (w.next call).router.peers = w.router.peers ∧
      ((w.withPeers other).call call).1 = (w.call call).1 ∧
      ((w.withPeers other).next call).router.ipv6Peers = (w.next call).router.ipv6Peers := by
  cases call with
  | registerPeer address peer =>
    cases address with
    | ipv4 address => exact h.elim
    | ipv6 address => cases peer <;> exact ⟨rfl, rfl, rfl⟩
  | unregisterPeer address expectedPeer =>
    cases address with
    | ipv4 address => exact h.elim
    | ipv6 address => cases expectedPeer <;> exact ⟨rfl, rfl, rfl⟩
  | findPeer address => exact h.elim
  | routeIpv4Packet packet => exact h.elim
  | routeIpv6Packet packet =>
    simp only [next, call, routeIpv6Packet]
    split_ifs <;> exact ⟨rfl, rfl, rfl⟩
  | activeRoutes => exact h.elim
  | die peer => exact h.elim

theorem register_answer (address : TunnelAddress) (peer : ι) :
    (w.call (.registerPeer address (some peer))).1 = .returned true ↔
      w.owners.owner address = none ∨ w.owners.owner address = some peer := by
  rw [answer_call id, ownersCall, RouterAnswer.returned.injEq, decide_eq_true_iff]
  rfl

/-- Every router behaves like the map that its entries come to. -/
theorem ownedBy_owners : w.OwnedBy w.owners where
  owners := rfl
  next := owners_call
  answer := fun _ => answer_call
  register := by
    intro address peer halive
    refine ⟨register_answer address peer, fun hregistered => ?_⟩
    rw [next, owners_call]
    exact (Ownership.claim_owner_self halive).mpr ((register_answer address peer).mp hregistered)
  keeps := by
    intro call address owner howner hdie hunregister
    rw [next, owners_call]
    exact ownersCall_keeps howner hdie hunregister
  unregister := by
    intro address owner other howner hne
    constructor
    · rw [answer_call (by simp [IsUnowned, howner])]
      simp [ownersCall, howner, hne]
    · have hkept : (w.next (.unregisterPeer address (some other))).owners.owner address =
          some owner := by
        rw [next, owners_call]
        exact Ownership.release_owner_of_owned howner fun _ => hne
      exact (Option.filter_eq_some_iff.mp hkept).1
  dead := by
    intro address peer hentry hdead
    have hnone : w.owners.owner address = none := by
      simp [owners, hentry, Option.filter, hdead]
    exact ⟨hnone, fun other => (register_answer address other).mpr (.inl hnone)⟩
  find := fun _ => answer_call id
  count := answer_call id
  ipv4Family := fun _ other h => ipv4_family h other
  ipv6Family := fun _ other h => ipv6_family h other
  routeIpv4 := by
    intro packet owner hvalid howner
    rw [answer_call id, ownersCall, if_pos hvalid, howner]
    rfl
  dropIpv4 := by
    intro packet hdrop
    rw [answer_call id, ownersCall]
    split_ifs with hvalid
    · have hnone : w.owners.owner (.ipv4 (ipv4Destination packet)) = none := by tauto
      rw [hnone]
      rfl
    · rfl
  routeIpv6 := by
    intro packet owner hvalid howner
    rw [answer_call id, ownersCall, if_pos hvalid, howner]
    rfl
  dropIpv6 := by
    intro packet hdrop
    rw [answer_call id, ownersCall]
    split_ifs with hvalid
    · have hnone : w.owners.owner (.ipv6 (ipv6Destination packet)) = none := by tauto
      rw [hnone]
      rfl
    · rfl

/-- After every history of calls and deaths the router behaves like the map of live owners that has
gone through the same history. -/
theorem router_refines_live_owners (alive : ι → Bool) (calls : List (RouterCall ι)) :
    (Run.run next { alive } calls).OwnedBy
      (Run.run ownersNext (.empty TunnelAddress alive) calls) := by
  have hstart : (owners { alive } : Ownership TunnelAddress ι) = .empty TunnelAddress alive := by
    ext address
    · rfl
    · cases address <;> simp [owners, entry, Ownership.empty]
  rw [← hstart, ← owners_run]
  exact ownedBy_owners

end RouterWorld

end PersonalVpn.Core
