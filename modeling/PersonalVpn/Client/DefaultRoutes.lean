import PersonalVpn.Client.NetworkReversal
import PersonalVpn.Client.RuntimeSteps

/-! Which configurations with a default route are protected as full tunnels. -/

namespace PersonalVpn.Client

open PersonalVpn.Core Protocol

/-- The prefix length that `validate_route` reads in a route. -/
def parsedPrefix (route : Bytes) : Option Nat :=
  (splitCidr route).bind fun (_, prefixText) =>
    parsePrefix (if 58 ∈ route then 128 else 32) prefixText

theorem validateRouteV6_ok {parsers : AddressParsers} {route r : Bytes} {allow : Bool}
    (h : validateRouteV6 parsers route allow = .ok r) : r = route ∧ ∃ addressText prefixText n,
      splitCidr route = some (addressText, prefixText) ∧ parsePrefix 128 prefixText = some n ∧
      (n = 0 → allow = true) := by
  rw [validateRouteV6] at h
  split at h
  · cases h
  · rename_i addressText prefixText hsplit
    split at h
    · cases h
    · rename_i n hprefix
      obtain ⟨hallow, h⟩ := throwIf_bind_ok.mp h
      have hn : n = 0 → allow = true := by
        intro hn
        simpa [hn] using hallow
      split at h
      · obtain ⟨-, h⟩ := throwIf_bind_ok.mp h
        cases h
        exact ⟨rfl, addressText, prefixText, n, hsplit, hprefix, hn⟩
      · cases h

theorem validateRouteV4_ok {route r : Bytes} {allow : Bool}
    (h : validateRouteV4 route allow = .ok r) : r = route ∧ ∃ addressText prefixText n,
      splitCidr route = some (addressText, prefixText) ∧ parsePrefix 32 prefixText = some n ∧
      (n = 0 → allow = true) := by
  rw [validateRouteV4] at h
  split at h
  · cases h
  · rename_i addressText prefixText hsplit
    obtain ⟨-, h⟩ := throwIf_bind_ok.mp h
    split at h
    · cases h
    · rename_i n hprefix
      obtain ⟨hallow, h⟩ := throwIf_bind_ok.mp h
      have hn : n = 0 → allow = true := by
        intro hn
        simpa [hn] using hallow
      obtain ⟨address, -, h⟩ := bind_eq_ok.mp h
      obtain ⟨-, h⟩ := throwIf_bind_ok.mp h
      cases h
      exact ⟨rfl, addressText, prefixText, n, hsplit, hprefix, hn⟩

/-- A route that is taken is taken as it is written, a default route only where it is allowed. -/
theorem validateRoute_ok {parsers : AddressParsers} {route r : Bytes} {allow : Bool}
    (h : validateRoute parsers route allow = .ok r) :
    r = route ∧ (parsedPrefix route = some 0 → allow = true) := by
  by_cases hcolon : 58 ∈ route
  · rw [validateRoute, if_pos hcolon] at h
    obtain ⟨hr, addressText, prefixText, n, hsplit, hprefix, hallow⟩ := validateRouteV6_ok h
    refine ⟨hr, ?_⟩
    intro hzero
    simp only [parsedPrefix, hsplit, if_pos hcolon, Option.bind_some, hprefix,
      Option.some.injEq] at hzero
    exact hallow hzero
  · rw [validateRoute, if_neg hcolon] at h
    obtain ⟨hr, addressText, prefixText, n, hsplit, hprefix, hallow⟩ := validateRouteV4_ok h
    refine ⟨hr, ?_⟩
    intro hzero
    simp only [parsedPrefix, hsplit, if_neg hcolon, Option.bind_some, hprefix,
      Option.some.injEq] at hzero
    exact hallow hzero

theorem loadRoutes_ok {parsers : AddressParsers} {allow : Bool} {routes routes' : List Bytes}
    {entries : List (Bytes × Ptree)} (h : loadRoutes parsers allow routes entries = .ok routes')
    (hroutes : ∀ r ∈ routes, parsedPrefix r = some 0 → allow = true) :
    ∀ r ∈ routes', parsedPrefix r = some 0 → allow = true := by
  induction entries generalizing routes with
  | nil =>
    cases h
    exact hroutes
  | cons entry entries ih =>
    obtain ⟨-, h⟩ := throwIf_bind_ok.mp h
    obtain ⟨route, hvalid, h⟩ := bind_eq_ok.mp h
    obtain ⟨-, h⟩ := throwIf_bind_ok.mp h
    apply ih h
    intro r hr
    obtain hr | hr := List.mem_append.mp hr
    · exact hroutes r hr
    · obtain ⟨hroute, hallow⟩ := validateRoute_ok hvalid
      rw [List.mem_singleton.mp hr, hroute]
      exact hallow

/-- What is checked about the routes of a configuration. -/
structure RoutesChecked (env : ConfigEnvironment) (config : ClientConfig) : Prop where
  allowed : ∀ r ∈ config.routes, parsedPrefix r = some 0 → config.allowDefaultRoute = true
  numeric : requestsFullTunnel config = true →
    env.parsers.makeAddress config.serverHost ≠ none ∧ env.scopeId config.serverHost = 0

theorem loadTunnel_ok {env : ConfigEnvironment} {tunnel : Ptree} {config₀ config : ClientConfig}
    (h : loadTunnel env tunnel config₀ = .ok config) : RoutesChecked env config := by
  obtain ⟨requestedMtu, -, h⟩ := bind_eq_ok.mp h
  obtain ⟨allow, -, h⟩ := bind_eq_ok.mp h
  obtain ⟨-, h⟩ := throwIf_bind_ok.mp h
  obtain ⟨routes, hroutes, h⟩ := bind_eq_ok.mp h
  obtain ⟨hnumeric, h⟩ := throwIf_bind_ok.mp h
  cases h
  refine ⟨loadRoutes_ok hroutes (by simp), ?_⟩
  intro hfull
  have hfull : allow = true ∧ (text "0.0.0.0/0" ∈ routes ∨ text "::/0" ∈ routes) := by
    simpa [requestsFullTunnel] using hfull
  simpa [hfull] using hnumeric

theorem loadClientConfig_ok {env : ConfigEnvironment} {configFile : Bytes} {config : ClientConfig}
    (h : loadClientConfig env configFile = .ok config) : RoutesChecked env config := by
  obtain ⟨-, h⟩ := ite_error_eq_ok.mp h
  split at h
  · cases h
  · rw [loadDocument] at h
    -- sixteen checks come before the tunnel
    iterate 16 obtain ⟨_, _, h⟩ := bind_eq_ok.mp h
    exact loadTunnel_ok h

/-- The routes have a default route, of either family. -/
def HasDefaultRoute (config : ClientConfig) : Prop :=
  ∃ r ∈ config.routes, parsedPrefix r = some 0

/-- A connection is started only after the kill switch is enabled, in every state of a runtime. -/
def ConnectsProtected {σ : Type} (backend : ClientNetworkBackend σ) (platform : Platform)
    (config : ClientConfig) : Prop :=
  ∀ (w : RuntimeIo σ), w.config = config → ∀ generation error endpoints killSwitch draw,
    let w' := w.handleResolve backend platform generation error endpoints killSwitch draw
    ∃ later, w'.actions = w.actions ++ later ∧ ∀ before after,
      later = before ++ .asyncConnect :: after →
        .enableKillSwitch (endpoints.map Endpoint.toWindows) ∈ before

/-- A full tunnel connects behind the kill switch or not at all. -/
theorem connectsProtected_of_full {σ : Type} {backend : ClientNetworkBackend σ}
    {platform : Platform} {config : ClientConfig} (h : requestsFullTunnel config = true) :
    ConnectsProtected backend platform config := by
  intro w hw generation error endpoints killSwitch draw w'
  have hnone (later : List RuntimeAction) (heq : w'.actions = w.actions ++ later)
      (hno : .asyncConnect ∉ later) : ∃ later, w'.actions = w.actions ++ later ∧
        ∀ before after, later = before ++ .asyncConnect :: after →
          .enableKillSwitch (endpoints.map Endpoint.toWindows) ∈ before := by
    refine ⟨later, heq, ?_⟩
    intro before after hsplit
    simp [hsplit] at hno
  have hcases : RuntimeIo.Resolved backend w generation endpoints draw w' :=
    RuntimeIo.handleResolve_cases backend platform w generation error endpoints killSwitch draw
  generalize w' = v at hcases hnone
  cases hcases with
  | stale other => exact hnone [] (by simp) (by simp)
  | stopped current =>
    obtain hsame | hfinish := RuntimeIo.finishOnIo_actions backend w
    · exact hnone [] (hsame.trans (List.append_nil _).symm) (by simp)
    · exact hnone _ hfinish (by simp)
  | failed current reason =>
    obtain hsame | hfinish | hretry := RuntimeIo.retryOnIo_actions backend w reason draw
    · exact hnone [] (hsame.trans (List.append_nil _).symm) (by simp)
    · exact hnone _ hfinish (by simp)
    · exact hnone _ hretry (by simp)
  | refused current full message =>
    obtain hsame | hfinish :=
      RuntimeIo.finishOnIo_actions backend (w.recordFailure message)
    · exact hnone [] (hsame.trans (List.append_nil _).symm) (by simp)
    · exact hnone _ hfinish (by simp)
  | guarded current full =>
    refine ⟨[.enableKillSwitch (endpoints.map Endpoint.toWindows),
      .publish .connecting w.network.1, .asyncConnect], ?_, ?_⟩
    · simp [RuntimeIo.asyncConnect, RuntimeIo.transition, RuntimeIo.act]
    · intro before after hsplit
      cases before with
      | nil => simp at hsplit
      | cons first before =>
        have hfirst := (List.cons.inj hsplit).1
        simp [← hfirst]
  | split current notFull =>
    rw [hw, h] at notFull
    cases notFull

/-- A configuration that is loaded protects its default routes exactly if it spells one of them as
`requests_full_tunnel` looks for it. -/
theorem default_routes_protected_iff {σ : Type} {env : ConfigEnvironment} {configFile : Bytes}
    {config : ClientConfig} (h : loadClientConfig env configFile = .ok config)
    (backend : ClientNetworkBackend σ) (platform : Platform) :
    (HasDefaultRoute config → requestsFullTunnel config = true ∧
      ConnectsProtected backend platform config ∧
      env.parsers.makeAddress config.serverHost ≠ none) ↔
    (HasDefaultRoute config →
      text "0.0.0.0/0" ∈ config.routes ∨ text "::/0" ∈ config.routes) := by
  have hchecked := loadClientConfig_ok h
  constructor
  · intro hprotected hdefault
    obtain ⟨hfull, -⟩ := hprotected hdefault
    have hfull : config.allowDefaultRoute = true ∧
        (text "0.0.0.0/0" ∈ config.routes ∨ text "::/0" ∈ config.routes) := by
      simpa [requestsFullTunnel] using hfull
    exact hfull.2
  · intro hspelled hdefault
    have hroutes := hspelled hdefault
    obtain ⟨r, hr, hzero⟩ := hdefault
    have hallow := hchecked.allowed r hr hzero
    have hfull : requestsFullTunnel config = true := by
      simp [requestsFullTunnel, hallow, hroutes]
    exact ⟨hfull, connectsProtected_of_full hfull, (hchecked.numeric hfull).1⟩

/-- A document with one route and default routes allowed. -/
def document (host route : String) : Ptree :=
  let leaf (s : String) : Ptree := .node (text s) []
  .node [] [
    (text "schema_version", leaf "1"),
    (text "server", .node [] [
      (text "host", leaf host),
      (text "port", leaf "8443"),
      (text "expected_name", leaf "vpn.example.test")]),
    (text "tls", .node [] [
      (text "ca_file", leaf "ca.crt"),
      (text "certificate_chain_file", leaf "client.crt"),
      (text "private_key_file", leaf "client.key")]),
    (text "tunnel", .node [] [
      (text "requested_mtu", leaf "1400"),
      (text "routes", .node [] [([], leaf route)]),
      (text "allow_default_route", leaf "true")])]

/-- A file system in which the document and its credentials are, and the IPv4 part of
`make_address`. -/
def environment (root : Ptree) : ConfigEnvironment where
  absolute path := path
  parentPath _ := text "/etc"
  isRelative _ := true
  append directory path := directory ++ text "/" ++ path
  isRegularFile _ := true
  fileSize _ := some 400
  readJson _ := some root
  validatePrivateKeyPermissions _ := .ok ()
  parsers :=
    { makeAddress s := match parseIpv4Address s with
        | .ok address => some address.toList
        | .error _ => none
      makeAddressV6 _ := none }
  scopeId _ := 0

def loaded (host route : String) : ClientConfig where
  serverHost := text host
  serverPort := 8443
  expectedServerName := text "vpn.example.test"
  caFile := text "/etc/ca.crt"
  certificateChainFile := text "/etc/client.crt"
  privateKeyFile := text "/etc/client.key"
  requestedMtu := 1400
  routes := [text route]
  allowDefaultRoute := true

/-- A full tunnel to a numeric server. -/
theorem default_routes_protected_iff_spelled :
    loadClientConfig (environment (document "192.0.2.1" "0.0.0.0/0")) (text "/etc/client.json") =
      .ok (loaded "192.0.2.1" "0.0.0.0/0") ∧
    requestsFullTunnel (loaded "192.0.2.1" "0.0.0.0/0") = true := by
  have hload : loadClientConfig (environment (document "192.0.2.1" "0.0.0.0/0"))
      (text "/etc/client.json") = .ok (loaded "192.0.2.1" "0.0.0.0/0") := by decide +kernel
  have hdefault : HasDefaultRoute (loaded "192.0.2.1" "0.0.0.0/0") :=
    ⟨text "0.0.0.0/0", by simp [loaded], by decide +kernel⟩
  have hiff := default_routes_protected_iff hload ClientNetworkTransaction.Host.backend .other
  obtain ⟨hfull, -⟩ := hiff.mpr (fun _ => .inl (by simp [loaded])) hdefault
  exact ⟨hload, hfull⟩

/-- With a second zero in the prefix length, a default route to a named server is no full tunnel: the
runtime connects without the kill switch, and the transaction installs the route. -/
theorem default_route_unprotected :
    let config := loaded "vpn.example.test" "0.0.0.0/00"
    loadClientConfig (environment (document "vpn.example.test" "0.0.0.0/00"))
      (text "/etc/client.json") = .ok config ∧
    HasDefaultRoute config ∧ requestsFullTunnel config = false ∧
    (∀ gateway, parseRoute (text "0.0.0.0/00") gateway = .ok ⟨#v[0, 0, 0, 0], 0, gateway⟩) ∧
    ¬ConnectsProtected ClientNetworkTransaction.Host.backend (.windows true) config ∧
    (environment (document "vpn.example.test" "0.0.0.0/00")).parsers.makeAddress
      config.serverHost = none := by
  intro config
  have hload : loadClientConfig (environment (document "vpn.example.test" "0.0.0.0/00"))
      (text "/etc/client.json") = .ok config := by decide +kernel
  have hnot : requestsFullTunnel config = false := by decide +kernel
  have hdefault : HasDefaultRoute config :=
    ⟨text "0.0.0.0/00", by simp [config, loaded], by decide +kernel⟩
  refine ⟨hload, hdefault, hnot, ?_, ?_, by decide +kernel⟩
  · intro gateway
    have hsplit : splitCidr (text "0.0.0.0/00") = some (text "0.0.0.0", text "00") := by
      decide +kernel
    have hprefix : parsePrefix 32 (text "00") = some 0 := by decide +kernel
    have haddress : parseIpv4Address (text "0.0.0.0") = .ok #v[0, 0, 0, 0] := by decide +kernel
    simp only [parseRoute, hsplit, hprefix, haddress]
    rfl
  · intro hprotected
    let w : RuntimeIo ClientNetworkTransaction.Host := { config, network := ({}, {}) }
    have hconnect : w.handleResolve ClientNetworkTransaction.Host.backend (.windows true) 0 none []
        (.ok ()) 0 = w.asyncConnect 0 := by
      simp [RuntimeIo.handleResolve, w, hnot]
    obtain ⟨later, hlater, hguarded⟩ := hprotected w rfl 0 none [] (.ok ()) 0
    rw [hconnect] at hlater
    have hactions : later = [.publish .connecting {}, .asyncConnect] := by
      simpa [w, RuntimeIo.asyncConnect, RuntimeIo.transition, RuntimeIo.act] using hlater.symm
    have hmem := hguarded [.publish .connecting {}] [] (by rw [hactions]; rfl)
    simp at hmem

end PersonalVpn.Client
