import Mathlib.Data.List.TakeWhile
import PersonalVpn.Client.ClientConfig
import PersonalVpn.Lib.Bits
import PersonalVpn.Lib.Mask

namespace PersonalVpn.Client

open PersonalVpn.Core Protocol

/-- The bytes of the network, as they stand in the address. -/
def Route.network : Route → Bytes
  | .ipv4 route => route.network.toList
  | .ipv6 route => route.network.toList

def Route.prefixLength : Route → UInt8
  | .ipv4 route => route.prefixLength
  | .ipv6 route => route.prefixLength

/-- The parser that a round of the route loop of `activate` calls. -/
def selectedRoute (parsers : AddressParsers) (cidr : Bytes) (gateway : Ipv4Address)
    (gatewayIpv6 : Ipv6Address) : Except Exception Route :=
  if 58 ∈ cidr then Route.ipv6 <$> parseRouteV6 parsers cidr gatewayIpv6
  else Route.ipv4 <$> parseRoute cidr gateway

theorem addRoute_selectedRoute {σ : Type} (backend : ClientNetworkBackend σ)
    (parsers : AddressParsers) (assignment : IpAssignment) (cidr : Bytes) :
    ClientNetworkTransaction.addRoute backend parsers assignment cidr = (do
      let route ← Fallible.ofExcept
        (selectedRoute parsers cidr assignment.gatewayAddress assignment.gatewayIpv6Address)
      ClientNetworkTransaction.call (backend.addRoute route) fun created t =>
        if created then { t with createdRoutes := t.createdRoutes ++ [route] } else t) := rfl

/-- `network` and `prefix` in `validate_route`, once both have been read. -/
def Examines (parsers : AddressParsers) (route network : Bytes) (prefixLength : Nat) : Prop :=
  ∃ addressText prefixText, splitCidr route = some (addressText, prefixText) ∧
    parsePrefix (if 58 ∈ route then 128 else 32) prefixText = some prefixLength ∧
    if 58 ∈ route then ∃ a, parsers.makeAddressV6 addressText = some (a, 0) ∧ a.toList = network
    else ∃ a, parseIpv4Address addressText = .ok a ∧ a.toList = network

/-- A text that is read as a number to its end has no slash. -/
theorem not_slash_of_fromChars {width value : Nat} {s : Bytes}
    (h : fromChars width s = some (value, [])) : 47 ∉ s := by
  unfold fromChars at h
  dsimp only at h
  split at h
  · cases h
  · rename_i hrange
    have hrest : s.dropWhile (fun b => decide (48 ≤ b ∧ b ≤ 57)) = [] := by
      simpa using (congrArg Prod.snd (Option.some.inj h))
    intro hslash
    have hdigit := List.dropWhile_eq_nil_iff.mp hrest 47 hslash
    revert hdigit
    decide

/-- A text that is read as a prefix length has no slash. -/
theorem not_slash_of_parsePrefix {maximum n : Nat} {s : Bytes} (h : parsePrefix maximum s = some n) :
    47 ∉ s ∧ n ≤ maximum := by
  unfold parsePrefix at h
  cases hf : fromChars 16 s with
  | none =>
    rw [hf] at h
    cases h
  | some r =>
    rcases r with ⟨value, rest⟩
    rw [hf] at h
    cases rest with
    | cons b rest => cases h
    | nil =>
      dsimp only at h
      split at h
      · cases h
      · rename_i hle
        refine ⟨?_, ?_⟩
        · exact not_slash_of_fromChars hf
        · cases h
          omega

/-! ### The check of an IPv4 network -/

/-- One round of the loop over the octets. -/
def shiftIn (value : UInt32) (octet : UInt8) : UInt32 := value <<< 8 ||| octet.toUInt32

/-- `value` in the IPv4 branch of `validate_route`. -/
def networkValue (address : Ipv4Address) : UInt32 := address.toList.foldl shiftIn 0

/-- `mask` in the IPv4 branch of `validate_route`. -/
def networkMask (p : Nat) : UInt32 := if p = 0 then 0 else 0xFFFFFFFF <<< UInt32.ofNat (32 - p)

theorem toNat_shiftIn (value : UInt32) (b : UInt8) (h : value.toNat * 256 + 255 < 2 ^ 32) :
    (shiftIn value b).toNat = value.toNat * 256 + b.toNat := by
  have hb : b.toNat < 2 ^ 8 := b.toNat_lt
  have hshift : value.toNat <<< 8 < 2 ^ 32 := by
    rw [Nat.shiftLeft_eq]
    exact Nat.lt_of_le_of_lt (Nat.le_add_right _ 255) h
  have hcount : (8 : UInt32).toNat % 32 = 8 := rfl
  rw [shiftIn, UInt32.toNat_or, UInt32.toNat_shiftLeft, UInt8.toNat_toUInt32, hcount,
    Nat.mod_eq_of_lt hshift, ← Nat.shiftLeft_add_eq_or_of_lt hb, Nat.shiftLeft_eq]

/-- The loop over the octets has the big-endian value of the address. -/
theorem toNat_foldl_shiftIn (bs : Bytes) (value : UInt32)
    (h : (value.toNat + 1) * 256 ^ bs.length ≤ 2 ^ 32) :
    (bs.foldl shiftIn value).toNat = value.toNat * 256 ^ bs.length + BigEndian.value bs := by
  induction bs generalizing value with
  | nil => simp [BigEndian.value]
  | cons b bs ih =>
    have hb := b.toNat_lt
    have hpos : 0 < 256 ^ bs.length := Nat.pow_pos (by decide)
    have hpow : 256 ^ (b :: bs).length = 256 * 256 ^ bs.length := by
      rw [List.length_cons, pow_succ, Nat.mul_comm]
    rw [hpow, ← Nat.mul_assoc] at h
    have hwide : (value.toNat + 1) * 256 ≤ 2 ^ 32 :=
      Nat.le_trans (Nat.le_mul_of_pos_right _ hpos) h
    have hstep := toNat_shiftIn value b (by omega)
    have hnext : (value.toNat * 256 + b.toNat + 1) * 256 ^ bs.length ≤ 2 ^ 32 :=
      Nat.le_trans (Nat.mul_le_mul_right _ (by omega)) h
    rw [List.foldl_cons, ih _ (by rw [hstep]; exact hnext), hstep, BigEndian.value, hpow]
    ring

theorem toNat_networkValue (address : Ipv4Address) :
    (networkValue address).toNat = BigEndian.value address.toList := by
  have hlen : address.toList.length = 4 := by simp
  have hvalue := toNat_foldl_shiftIn address.toList 0 (by rw [hlen]; decide)
  have hzero : (0 : UInt32).toNat = 0 := rfl
  rw [networkValue, hvalue, hzero, Nat.zero_mul, Nat.zero_add]

/-- The mask keeps exactly the bits of the prefix. -/
theorem toNat_and_networkMask (value : UInt32) {p : Nat} (hp : p ≤ 32) :
    (value &&& networkMask p).toNat = value.toNat / 2 ^ (32 - p) * 2 ^ (32 - p) := by
  by_cases h0 : p = 0
  · have hlt := value.toNat_lt
    simp [networkMask, h0]
    exact hlt
  · have hmask := Mask.toNat_and_high value (k := 32 - p) (by omega)
    rwa [networkMask, if_neg h0]

theorem ipv4_check_iff (address : Ipv4Address) {p : Nat} (hp : p ≤ 32) :
    networkValue address &&& networkMask p = networkValue address ↔
      Bits.ZeroFrom address.toList p := by
  have hlen : address.toList.length = 4 := by simp
  rw [← UInt32.toNat_inj, toNat_and_networkMask _ hp, toNat_networkValue,
    Bits.zeroFrom_iff_value (by omega), hlen]

/-! ### The check of an IPv6 network -/

theorem toList_canonicalNetwork (network : Ipv6Address) (p : Nat) :
    (canonicalNetwork network p).toList =
      (List.range' p (128 - p)).foldl Bits.clear network.toList := by
  rw [canonicalNetwork]
  generalize List.range' p (128 - p) = bits
  induction bits generalizing network with
  | nil => rfl
  | cons bit bits ih =>
    have hbyte : network.getD (bit / 8) 0 = network.toList.getD (bit / 8) 0 := by
      by_cases hin : bit / 8 < 16 <;> simp [Vector.getD, Array.getD, hin]
    have hclear : Bits.clear network.toList bit = (network.setIfInBounds (bit / 8)
        (network.getD (bit / 8) 0 &&& ~~~((1 : UInt8) <<< UInt8.ofNat (7 - bit % 8)))).toList := by
      rw [Bits.clear, hbyte]
      simp
    rw [List.foldl_cons, List.foldl_cons, hclear]
    exact ih _

theorem ipv6_check_iff (network : Ipv6Address) (p : Nat) :
    network = canonicalNetwork network p ↔ Bits.ZeroFrom network.toList p := by
  have hlen : 8 * network.toList.length = 128 := by simp
  rw [← Bits.foldl_clear_eq_iff, hlen, ← toList_canonicalNetwork, Vector.toList_inj]
  exact eq_comm

/-! ### What the two parsers of a family accept -/

section

variable {parsers : AddressParsers} {route : Bytes} {allow : Bool}

theorem examines_ipv4_iff (hcolon : 58 ∉ route) {network : Bytes} {p : Nat} :
    Examines parsers route network p ↔ ∃ addressText prefixText a,
      splitCidr route = some (addressText, prefixText) ∧ parsePrefix 32 prefixText = some p ∧
        parseIpv4Address addressText = .ok a ∧ a.toList = network := by
  simp only [Examines, if_neg hcolon]
  constructor
  · rintro ⟨addressText, prefixText, hsplit, hprefix, a, ha, hnetwork⟩
    exact ⟨addressText, prefixText, a, hsplit, hprefix, ha, hnetwork⟩
  · rintro ⟨addressText, prefixText, a, hsplit, hprefix, ha, hnetwork⟩
    exact ⟨addressText, prefixText, hsplit, hprefix, a, ha, hnetwork⟩

theorem examines_ipv6_iff (hcolon : 58 ∈ route) {network : Bytes} {p : Nat} :
    Examines parsers route network p ↔ ∃ addressText prefixText a,
      splitCidr route = some (addressText, prefixText) ∧ parsePrefix 128 prefixText = some p ∧
        parsers.makeAddressV6 addressText = some (a, 0) ∧ a.toList = network := by
  simp only [Examines, if_pos hcolon]
  constructor
  · rintro ⟨addressText, prefixText, hsplit, hprefix, a, ha, hnetwork⟩
    exact ⟨addressText, prefixText, a, hsplit, hprefix, ha, hnetwork⟩
  · rintro ⟨addressText, prefixText, a, hsplit, hprefix, ha, hnetwork⟩
    exact ⟨addressText, prefixText, hsplit, hprefix, a, ha, hnetwork⟩

private theorem not_refused {p : Nat} : ¬(p = 0 ∧ allow = false) ↔ (p = 0 → allow = true) := by
  rw [not_and, Bool.not_eq_false]

/-- A route without a colon is accepted for its text, its prefix and the bits behind the prefix. -/
theorem validateRouteV4_ok_iff (parsers : AddressParsers) {r : Bytes} (hcolon : 58 ∉ route) :
    validateRouteV4 route allow = .ok r ↔ r = route ∧ ∃ network p,
      Examines parsers route network p ∧ (p = 0 → allow = true) ∧ Bits.ZeroFrom network p := by
  simp only [examines_ipv4_iff hcolon]
  constructor
  · intro h
    unfold validateRouteV4 at h
    split at h
    · cases h
    · rename_i addressText prefixText hsplit
      obtain ⟨-, h⟩ := throwIf_bind_ok.mp h
      split at h
      · cases h
      · rename_i p hprefix
        obtain ⟨hallow, h⟩ := throwIf_bind_ok.mp h
        obtain ⟨a, ha, h⟩ := bind_eq_ok.mp h
        obtain ⟨hmask, h⟩ := throwIf_bind_ok.mp h
        cases h
        have hle := (not_slash_of_parsePrefix hprefix).2
        exact ⟨rfl, a.toList, p, ⟨addressText, prefixText, a, hsplit, hprefix, ha, rfl⟩,
          not_refused.mp hallow, (ipv4_check_iff a hle).mp (not_not.mp hmask)⟩
  · rintro ⟨rfl, network, p, ⟨addressText, prefixText, a, hsplit, hprefix, ha, rfl⟩, hallow, hzero⟩
    obtain ⟨hslash, hle⟩ := not_slash_of_parsePrefix hprefix
    unfold validateRouteV4
    simp only [hsplit, hprefix]
    refine throwIf_bind_ok.mpr ⟨hslash, throwIf_bind_ok.mpr ⟨not_refused.mpr hallow, ?_⟩⟩
    refine bind_eq_ok.mpr ⟨a, ha, throwIf_bind_ok.mpr ⟨?_, rfl⟩⟩
    exact not_not.mpr ((ipv4_check_iff a hle).mpr hzero)

theorem validateRouteV6_ok_iff {r : Bytes} (hcolon : 58 ∈ route) :
    validateRouteV6 parsers route allow = .ok r ↔ r = route ∧ ∃ network p,
      Examines parsers route network p ∧ (p = 0 → allow = true) ∧ Bits.ZeroFrom network p := by
  simp only [examines_ipv6_iff hcolon]
  constructor
  · intro h
    unfold validateRouteV6 at h
    split at h
    · cases h
    · rename_i addressText prefixText hsplit
      split at h
      · cases h
      · rename_i p hprefix
        obtain ⟨hallow, h⟩ := throwIf_bind_ok.mp h
        split at h
        · rename_i a ha
          obtain ⟨hbits, h⟩ := throwIf_bind_ok.mp h
          cases h
          exact ⟨rfl, a.toList, p, ⟨addressText, prefixText, a, hsplit, hprefix, ha, rfl⟩,
            not_refused.mp hallow, (ipv6_check_iff a p).mp (not_not.mp hbits)⟩
        · cases h
  · rintro ⟨rfl, network, p, ⟨addressText, prefixText, a, hsplit, hprefix, ha, rfl⟩, hallow, hzero⟩
    unfold validateRouteV6
    simp only [hsplit, hprefix]
    refine throwIf_bind_ok.mpr ⟨not_refused.mpr hallow, ?_⟩
    simp only [ha]
    exact throwIf_bind_ok.mpr ⟨not_not.mpr ((ipv6_check_iff a p).mpr hzero), rfl⟩

theorem validateRoute_ok_iff {r : Bytes} :
    validateRoute parsers route allow = .ok r ↔ r = route ∧ ∃ network p,
      Examines parsers route network p ∧ (p = 0 → allow = true) ∧ Bits.ZeroFrom network p := by
  by_cases hcolon : 58 ∈ route
  · rw [validateRoute, if_pos hcolon, validateRouteV6_ok_iff hcolon]
  · rw [validateRoute, if_neg hcolon, validateRouteV4_ok_iff parsers hcolon]

theorem parseRoute_ok_iff {gateway : Ipv4Address} {r : Ipv4Route} :
    parseRoute route gateway = .ok r ↔ ∃ addressText prefixText p a,
      splitCidr route = some (addressText, prefixText) ∧ parsePrefix 32 prefixText = some p ∧
        parseIpv4Address addressText = .ok a ∧ r = ⟨a, UInt8.ofNat p, gateway⟩ := by
  constructor
  · intro h
    unfold parseRoute at h
    split at h
    · cases h
    · rename_i addressText prefixText hsplit
      split at h
      · cases h
      · rename_i p hprefix
        obtain ⟨a, ha, h⟩ := bind_eq_ok.mp h
        cases h
        exact ⟨addressText, prefixText, p, a, hsplit, hprefix, ha, rfl⟩
  · rintro ⟨addressText, prefixText, p, a, hsplit, hprefix, ha, rfl⟩
    unfold parseRoute
    simp only [hsplit, hprefix]
    exact bind_eq_ok.mpr ⟨a, ha, rfl⟩

theorem parseIpv6Address_ok_iff {s : Bytes} {a : Ipv6Address} :
    parseIpv6Address parsers s = .ok a ↔ parsers.makeAddressV6 s = some (a, 0) := by
  constructor
  · intro h
    unfold parseIpv6Address at h
    split at h
    · rename_i ha
      cases h
      exact ha
    · cases h
  · intro h
    simp only [parseIpv6Address, h]

theorem parseRouteV6_ok_iff {gateway : Ipv6Address} {r : Ipv6Route} :
    parseRouteV6 parsers route gateway = .ok r ↔ ∃ addressText prefixText p a,
      splitCidr route = some (addressText, prefixText) ∧ parsePrefix 128 prefixText = some p ∧
        parsers.makeAddressV6 addressText = some (a, 0) ∧ Bits.ZeroFrom a.toList p ∧
        r = ⟨a, UInt8.ofNat p, gateway⟩ := by
  constructor
  · intro h
    unfold parseRouteV6 at h
    split at h
    · cases h
    · rename_i addressText prefixText hsplit
      split at h
      · cases h
      · rename_i p hprefix
        obtain ⟨a, ha, h⟩ := bind_eq_ok.mp h
        obtain ⟨hbits, h⟩ := throwIf_bind_ok.mp h
        cases h
        exact ⟨addressText, prefixText, p, a, hsplit, hprefix, parseIpv6Address_ok_iff.mp ha,
          (ipv6_check_iff a p).mp (not_not.mp hbits), rfl⟩
  · rintro ⟨addressText, prefixText, p, a, hsplit, hprefix, ha, hzero, rfl⟩
    unfold parseRouteV6
    simp only [hsplit, hprefix]
    refine bind_eq_ok.mpr ⟨a, parseIpv6Address_ok_iff.mpr ha, throwIf_bind_ok.mpr ⟨?_, rfl⟩⟩
    exact not_not.mpr ((ipv6_check_iff a p).mpr hzero)

/-- The selected parser reads the same network and prefix. It checks the bits of IPv6 networks only. -/
theorem selectedRoute_ok_iff {gateway : Ipv4Address} {gatewayIpv6 : Ipv6Address} {network : Bytes}
    {p : Nat} :
    (∃ r, selectedRoute parsers route gateway gatewayIpv6 = .ok r ∧ r.network = network ∧
      r.prefixLength.toNat = p) ↔
    Examines parsers route network p ∧ (58 ∈ route → Bits.ZeroFrom network p) := by
  have hto {n m : Nat} (hle : n ≤ m) (hm : m ≤ 128) : (UInt8.ofNat n).toNat = n := by
    rw [UInt8.toNat_ofNat', Nat.mod_eq_of_lt (by omega)]
  by_cases hcolon : 58 ∈ route
  · rw [selectedRoute, if_pos hcolon, examines_ipv6_iff hcolon]
    constructor
    · rintro ⟨r, hr, rfl, rfl⟩
      obtain ⟨r', hr', rfl⟩ := map_eq_ok.mp hr
      obtain ⟨addressText, prefixText, p, a, hsplit, hprefix, ha, hzero, rfl⟩ :=
        parseRouteV6_ok_iff.mp hr'
      have hp := hto (not_slash_of_parsePrefix hprefix).2 (by decide)
      simp only [Route.network, Route.prefixLength, hp]
      exact ⟨⟨addressText, prefixText, a, hsplit, hprefix, ha, rfl⟩, fun _ => hzero⟩
    · rintro ⟨⟨addressText, prefixText, a, hsplit, hprefix, ha, rfl⟩, hzero⟩
      have hp := hto (not_slash_of_parsePrefix hprefix).2 (by decide)
      have hr : parseRouteV6 parsers route gatewayIpv6 = .ok ⟨a, UInt8.ofNat p, gatewayIpv6⟩ :=
        parseRouteV6_ok_iff.mpr
          ⟨addressText, prefixText, p, a, hsplit, hprefix, ha, hzero hcolon, rfl⟩
      exact ⟨_, map_eq_ok.mpr ⟨_, hr, rfl⟩, rfl, hp⟩
  · rw [selectedRoute, if_neg hcolon, examines_ipv4_iff hcolon]
    constructor
    · rintro ⟨r, hr, rfl, rfl⟩
      obtain ⟨r', hr', rfl⟩ := map_eq_ok.mp hr
      obtain ⟨addressText, prefixText, p, a, hsplit, hprefix, ha, rfl⟩ := parseRoute_ok_iff.mp hr'
      have hp := hto (not_slash_of_parsePrefix hprefix).2 (by decide)
      simp only [Route.network, Route.prefixLength, hp]
      exact ⟨⟨addressText, prefixText, a, hsplit, hprefix, ha, rfl⟩, fun h => absurd h hcolon⟩
    · rintro ⟨⟨addressText, prefixText, a, hsplit, hprefix, ha, rfl⟩, -⟩
      have hp := hto (not_slash_of_parsePrefix hprefix).2 (by decide)
      have hr : parseRoute route gateway = .ok ⟨a, UInt8.ofNat p, gateway⟩ :=
        parseRoute_ok_iff.mpr ⟨addressText, prefixText, p, a, hsplit, hprefix, ha, rfl⟩
      exact ⟨_, map_eq_ok.mpr ⟨_, hr, rfl⟩, rfl, hp⟩

end

/-- A route that `validate_route` accepts is one that `activate` parses, to the network and the prefix
that were examined, with zeros behind the prefix. What `activate` parses with zeros behind the prefix is
accepted by `validate_route`, a default route if it is allowed. -/
theorem routes_agree (parsers : AddressParsers) (route : Bytes) (allow : Bool)
    (gateway : Ipv4Address) (gatewayIpv6 : Ipv6Address) :
    (∀ accepted, validateRoute parsers route allow = .ok accepted →
      ∃ r, selectedRoute parsers route gateway gatewayIpv6 = .ok r ∧
        Examines parsers route r.network r.prefixLength.toNat ∧
        Bits.ZeroFrom r.network r.prefixLength.toNat) ∧
    (∀ r, selectedRoute parsers route gateway gatewayIpv6 = .ok r →
      Bits.ZeroFrom r.network r.prefixLength.toNat → (0 < r.prefixLength ∨ allow = true) →
        validateRoute parsers route allow = .ok route) := by
  constructor
  · intro accepted h
    obtain ⟨-, network, p, hexamines, -, hzero⟩ := validateRoute_ok_iff.mp h
    have hread : ∃ r, selectedRoute parsers route gateway gatewayIpv6 = .ok r ∧
        r.network = network ∧ r.prefixLength.toNat = p :=
      selectedRoute_ok_iff.mpr ⟨hexamines, fun _ => hzero⟩
    obtain ⟨r, hr, rfl, rfl⟩ := hread
    exact ⟨r, hr, hexamines, hzero⟩
  · intro r hr hzero hallow
    obtain ⟨hexamines, -⟩ := selectedRoute_ok_iff.mp ⟨r, hr, rfl, rfl⟩
    refine validateRoute_ok_iff.mpr ⟨rfl, r.network, _, hexamines, fun hp => ?_, hzero⟩
    obtain hpos | hallowed := hallow
    · rw [UInt8.lt_iff_toNat_lt, hp] at hpos
      exact absurd hpos (Nat.lt_irrefl 0)
    · exact hallowed

end PersonalVpn.Client
