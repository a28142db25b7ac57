import PersonalVpn.Core.Greeting
import PersonalVpn.Server.ServerConfig

namespace PersonalVpn.Server

open PersonalVpn.Core Protocol

theorem parseUnsigned_ok {option value : Bytes} {minimum maximum n : Nat}
    (h : parseUnsigned option value minimum maximum = .ok n) : minimum ≤ n ∧ n ≤ maximum := by
  unfold parseUnsigned at h
  split at h
  · obtain ⟨hrange, hn⟩ := throwIf_bind_ok.mp h
    obtain rfl := Except.ok.inj hn
    omega
  · cases h

namespace ServerConfig

/-- The MTU of a configuration is one that IPv6 can use. -/
def MtuInRange (config : ServerConfig) : Prop :=
  kMinimumIpv6Mtu ≤ config.mtu ∧ config.mtu ≤ kMaximumTunnelMtu

/-- Whatever configuration a branch of the parser returns has its MTU in range. -/
def Keeps (r : Except Exception ServerConfig) : Prop := ∀ config, r = .ok config → config.MtuInRange

theorem keeps_ok {config : ServerConfig} (h : config.MtuInRange) : Keeps (.ok config) := by
  intro config' heq
  rwa [← Except.ok.inj heq]

theorem keeps_error (e : Exception) : Keeps (.error e) := by
  intro config heq
  cases heq

theorem keeps_ite {c : Prop} [Decidable c] {r r' : Except Exception ServerConfig} (h : Keeps r)
    (h' : Keeps r') : Keeps (if c then r else r') := by
  split
  · exact h
  · exact h'

theorem keeps_setUnsigned {option value : Bytes} {minimum maximum : Nat} {set : Nat → ServerConfig}
    (h : ∀ n, minimum ≤ n → n ≤ maximum → (set n).MtuInRange) :
    Keeps (setUnsigned option value minimum maximum set) := by
  intro config heq
  obtain ⟨n, hn, hset⟩ := bind_eq_ok.mp heq
  obtain ⟨hmin, hmax⟩ := parseUnsigned_ok hn
  rw [← Except.ok.inj hset]
  exact h n hmin hmax

/-- Only `--mtu` sets the MTU, and it checks the range. -/
theorem keeps_setOption {config : ServerConfig} (h : config.MtuInRange) (option value : Bytes) :
    Keeps (config.setOption option value) := by
  unfold setOption
  repeat' apply keeps_ite
  all_goals first
    | exact keeps_ok h
    | exact keeps_setUnsigned fun _ _ _ => h
    | exact keeps_error _
    | skip
  apply keeps_setUnsigned
  intro n hmin hmax
  have hnat : (UInt16.ofNat n).toNat = n := by
    rw [UInt16.toNat_ofNat']
    change n ≤ 9000 at hmax
    omega
  constructor
  · rwa [UInt16.le_iff_toNat_le, hnat]
  · rwa [UInt16.le_iff_toNat_le, hnat]

theorem keeps_parseOptions {config : ServerConfig} (h : config.MtuInRange) (arguments : List Bytes) :
    Keeps (config.parseOptions arguments) := by
  fun_induction parseOptions config arguments with
  | case1 config => exact keeps_ok h
  | case2 config option arguments help ih => exact ih h
  | case3 config arguments version ih => exact ih h
  | case4 config option help version => exact keeps_error _
  | case5 config option help version value arguments ih =>
    intro config' heq
    obtain ⟨config₁, hset, hrest⟩ := bind_eq_ok.mp heq
    exact ih config₁ (keeps_setOption h option value config₁ hset) config' hrest

/-- The pool of an accepted configuration is one the manager accepts. -/
theorem validate_ok {parsers : AddressParsers} {config : ServerConfig}
    (h : config.validate parsers = .ok ()) (hhelp : config.showHelp = false)
    (hversion : config.showVersion = false) : ∃ m, config.leaseManager parsers = .ok m := by
  unfold validate at h
  rw [if_neg (by simp [hhelp, hversion])] at h
  simp only [throwIf_bind_ok] at h
  obtain ⟨m, hm, -⟩ := bind_eq_ok.mp h.2.2.2
  exact ⟨m, hm⟩

theorem leaseManager_ok {parsers : AddressParsers} {config : ServerConfig} {m : LeaseManager}
    (h : config.leaseManager parsers = .ok m) :
    m.Inv ∧ m.ipv6PrefixLength = 64 ∧ m.mtu = config.mtu := by
  simp only [leaseManager, bind_eq_ok] at h
  obtain ⟨first, -, last, -, gateway, -, ipv6Prefix, -, ipv6Gateway, -, hcreate⟩ := h
  refine ⟨LeaseManager.inv_create hcreate, ?_⟩
  obtain ⟨rfl, -⟩ := LeaseManager.create_ok_iff.mp hcreate
  exact ⟨rfl, rfl⟩

end ServerConfig

theorem parseServerArguments_ok {parsers : AddressParsers} {arguments : List Bytes}
    {config : ServerConfig} (h : parseServerArguments parsers arguments = .ok config) :
    config.MtuInRange ∧ config.validate parsers = .ok () := by
  obtain ⟨parsed, hparse, hrest⟩ := bind_eq_ok.mp h
  obtain ⟨u, hvalid, hret⟩ := bind_eq_ok.mp hrest
  obtain rfl := Except.ok.inj hret
  have hdefault : ({} : ServerConfig).MtuInRange := ⟨by decide, by decide⟩
  exact ⟨ServerConfig.keeps_parseOptions hdefault arguments parsed hparse, hvalid⟩

/-- What the server starts from an accepted command line serves a client that is granted a lease if and
only if its pool is servable, in whatever state the manager is then. -/
theorem accepted_config_serves_iff (parsers : AddressParsers) {arguments : List Bytes}
    {config : ServerConfig} (h : parseServerArguments parsers arguments = .ok config)
    (hhelp : config.showHelp = false) (hversion : config.showVersion = false) :
    ∃ m₀, config.leaseManager parsers = .ok m₀ ∧
      ∀ (calls : List LeaseCall) (identity : Bytes) (now : TimePoint) (l : Lease)
        (m' : LeaseManager),
        (Run.run LeaseManager.call m₀ calls).acquire identity now = (.ok l, m') →
        ∀ requestedMtu : UInt16, 1280 ≤ requestedMtu → requestedMtu ≤ 9000 →
          (Greets (Run.run LeaseManager.call m₀ calls) identity now requestedMtu ↔
            m₀.Servable) := by
  obtain ⟨hmtu, hvalid⟩ := parseServerArguments_ok h
  obtain ⟨m₀, hm₀⟩ := ServerConfig.validate_ok hvalid hhelp hversion
  obtain ⟨hinv, h64, hmtu₀⟩ := ServerConfig.leaseManager_ok hm₀
  refine ⟨m₀, hm₀, fun calls identity now l m' hok requestedMtu hmin hmax => ?_⟩
  have hpolicy : (Run.run LeaseManager.call m₀ calls).toLeasePolicy = m₀.toLeasePolicy :=
    LeaseManager.policy_run hinv calls
  have hmin₀ : kMinimumIpv6Mtu ≤ m₀.mtu := by
    rw [hmtu₀]
    exact hmtu.1
  have hgreets := greets_iff_servable (LeaseManager.inv_run hinv calls) (by rwa [hpolicy])
    (by rwa [hpolicy]) hok hmin hmax
  rwa [hpolicy] at hgreets

/-- The address parsers on the texts of the default configuration. -/
def defaultParsers : AddressParsers where
  makeAddress s := if s = text "0.0.0.0" then some [0, 0, 0, 0] else none
  makeAddressV6 s :=
    if s = text "fd00:8::" then
      some (#v[0xfd, 0, 0, 8, 0, 0, 0, 0, 0, 0, 0, 0, 0, 0, 0, 0], 0)
    else if s = text "fd00:8::1" then
      some (#v[0xfd, 0, 0, 8, 0, 0, 0, 0, 0, 0, 0, 0, 0, 0, 0, 1], 0)
    else none

/-- A command line with the required options and the given gateway. -/
def commandLine (gateway : String) : List Bytes :=
  [text "--server-cert", text "server.pem", text "--server-key", text "server.key",
    text "--client-ca", text "ca.pem", text "--gateway", text gateway]

def commandLineConfig (gateway : String) : ServerConfig where
  certificateChainFile := text "server.pem"
  privateKeyFile := text "server.key"
  clientCaFile := text "ca.pem"
  gatewayAddress := text gateway

/-- The manager of that configuration. -/
def commandLineManager (gateway : Ipv4Address) : LeaseManager where
  firstAddress := 0x0A080002
  lastAddress := 0x0A0800FE
  gatewayAddress := gateway
  prefixLength := 24
  mtu := 1400
  leaseDuration := 3600
  ipv6Prefix := #v[0xfd, 0, 0, 8, 0, 0, 0, 0, 0, 0, 0, 0, 0, 0, 0, 0]
  ipv6Gateway := #v[0xfd, 0, 0, 8, 0, 0, 0, 0, 0, 0, 0, 0, 0, 0, 0, 1]
  ipv6PrefixLength := 64
  leasesByIdentity := ∅
  identityByAddress := ∅
  nextLeaseId := 1

theorem leaseManager_commandLine {gateway : String} {address : Ipv4Address}
    (hgateway : parseIpv4Address (text gateway) = .ok address)
    (hvalid : (commandLineManager address).toLeasePolicy.validate = .ok ()) :
    (commandLineConfig gateway).leaseManager defaultParsers =
      .ok (commandLineManager address) := by
  have hfirst : parseIpv4Address (text "10.8.0.2") = .ok #v[10, 8, 0, 2] := by decide +kernel
  have hlast : parseIpv4Address (text "10.8.0.254") = .ok #v[10, 8, 0, 254] := by decide +kernel
  simp only [ServerConfig.leaseManager, bind_eq_ok]
  refine ⟨_, hfirst, _, hlast, address, hgateway, _, rfl, _, rfl, ?_⟩
  rw [LeaseManager.create_ok_iff, ← LeasePolicy.validate_ok_iff]
  exact ⟨rfl, hvalid⟩

/-- With the default gateway the first client is served. -/
theorem accepted_config_serves_iff_default :
    (commandLineConfig "10.8.0.1").leaseManager defaultParsers =
        .ok (commandLineManager #v[10, 8, 0, 1]) ∧
      Greets (commandLineManager #v[10, 8, 0, 1]) (text "c") 0 1400 := by
  have hparse : parseServerArguments defaultParsers (commandLine "10.8.0.1") =
      .ok (commandLineConfig "10.8.0.1") := by
    decide +kernel
  have hmanager : (commandLineConfig "10.8.0.1").leaseManager defaultParsers =
      .ok (commandLineManager #v[10, 8, 0, 1]) :=
    leaseManager_commandLine (by decide +kernel) (by decide)
  obtain ⟨m₀, hm₀, hserves⟩ := accepted_config_serves_iff defaultParsers hparse rfl rfl
  obtain rfl := Except.ok.inj (hmanager.symm.trans hm₀)
  refine ⟨hmanager, ?_⟩
  have hgranted : ((commandLineManager #v[10, 8, 0, 1]).acquire (text "c") 0).1.toOption.isSome =
      true := by
    decide +kernel
  rcases hok : (commandLineManager #v[10, 8, 0, 1]).acquire (text "c") 0 with ⟨granted, m'⟩
  rw [hok] at hgranted
  cases granted with
  | error e => cases hgranted
  | ok l =>
    refine (hserves [] (text "c") 0 l m' hok 1400 (by decide) (by decide)).mpr ⟨by decide, ?_⟩
    intro _
    decide

/-- A gateway that is the network address is accepted, and the client then refuses its
assignment. -/
theorem gateway_on_network_address_refused :
    let m := commandLineManager #v[10, 8, 0, 0]
    parseServerArguments defaultParsers (commandLine "10.8.0.0") =
        .ok (commandLineConfig "10.8.0.0") ∧
      (commandLineConfig "10.8.0.0").leaseManager defaultParsers = .ok m ∧
      (∃ l m', m.acquire (text "c") 0 = (.ok l, m')) ∧ ¬Greets m (text "c") 0 1400 := by
  intro m
  have hmanager : (commandLineConfig "10.8.0.0").leaseManager defaultParsers = .ok m :=
    leaseManager_commandLine (by decide +kernel) (by decide)
  refine ⟨by decide +kernel, hmanager, ?_⟩
  have hgranted : (m.acquire (text "c") 0).1.toOption.isSome = true := by decide +kernel
  rcases hok : m.acquire (text "c") 0 with ⟨granted, m'⟩
  rw [hok] at hgranted
  cases granted with
  | error e => cases hgranted
  | ok l =>
    refine ⟨⟨l, m', rfl⟩, fun hgreets => ?_⟩
    obtain ⟨hinv, -⟩ := ServerConfig.leaseManager_ok hmanager
    have hservable :=
      (greets_iff_servable hinv rfl (by decide) hok (by decide) (by decide)).mp hgreets
    exact absurd (hservable.gateway (by decide)).1 (by decide)

end PersonalVpn.Server
