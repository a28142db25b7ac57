import PersonalVpn.Client.ClientNetworkTransaction

namespace PersonalVpn.Client

open PersonalVpn.Core Protocol

/-- `boost::property_tree::ptree`: a text, and children under keys in their order. -/
inductive Ptree where
  | node (data : Bytes) (children : List (Bytes × Ptree))

namespace Ptree

def data : Ptree → Bytes
  | node data _ => data

def children : Ptree → List (Bytes × Ptree)
  | node _ children => children

/-- `get_child_optional`, for a name without a dot: the first child under it. -/
def child (tree : Ptree) (name : Bytes) : Option Ptree :=
  (tree.children.find? fun entry => decide (entry.1 = name)).map Prod.snd

/-- `get_optional<std::string>`. -/
def field (tree : Ptree) (name : Bytes) : Option Bytes := (tree.child name).map data

end Ptree

/-- What `load_client_config` asks of the file system and of Boost. -/
structure ConfigEnvironment where
  /-- `absolute`, and then `lexically_normal` -/
  absolute : Bytes → Bytes
  parentPath : Bytes → Bytes
  isRelative : Bytes → Bool
  append : Bytes → Bytes → Bytes
  isRegularFile : Bytes → Bool
  fileSize : Bytes → Option Nat
  readJson : Bytes → Option Ptree
  validatePrivateKeyPermissions : Bytes → Except Exception Unit
  parsers : AddressParsers
  /-- the scope identifier of what `make_address` returns, zero for an IPv4 address -/
  scopeId : Bytes → Nat

structure ClientConfig where
  serverHost : Bytes := []
  serverPort : UInt16 := 8443
  expectedServerName : Bytes := []
  caFile : Bytes := []
  certificateChainFile : Bytes := []
  privateKeyFile : Bytes := []
  requestedMtu : UInt16 := 1400
  routes : List Bytes := []
  allowDefaultRoute : Bool := false
  deriving DecidableEq, Repr

def kMaximumConfigBytes : Nat := 64 * 1024

/-- The loop of `ensure_keys`, with the keys it has seen. -/
def ensureKeysFrom (allowed : List Bytes) (sectionName : Bytes) (seen : List Bytes) :
    List (Bytes × Ptree) → Except Exception Unit
  | [] => .ok ()
  | (key, _) :: entries => do
    throwIf (key = [] ∨ ¬allowed.contains key)
      (.invalidArgument (text "unknown field in " ++ sectionName ++ text ": " ++ key))
    throwIf (seen.contains key)
      (.invalidArgument (text "duplicate field in " ++ sectionName ++ text ": " ++ key))
    ensureKeysFrom allowed sectionName (key :: seen) entries

def ensureKeys (tree : Ptree) (allowed : List Bytes) (sectionName : Bytes) :
    Except Exception Unit :=
  ensureKeysFrom allowed sectionName [] tree.children

def requireSection (root : Ptree) (name : Bytes) : Except Exception Ptree :=
  match root.child name with
  | some (.node data (entry :: entries)) => .ok (.node data (entry :: entries))
  | _ => .error (.invalidArgument (text "missing or empty configuration section: " ++ name))

/-- `iscntrl` or `isspace`. -/
def isForbidden (byte : UInt8) : Bool := byte ≤ 32 || byte = 127

def requireText (tree : Ptree) (field : Bytes) (maximumLength : Nat) : Except Exception Bytes :=
  match tree.field field with
  | none => .error (.invalidArgument (text "missing or invalid text field: " ++ field))
  | some value => do
    throwIf (value = [] ∨ value.length > maximumLength)
      (.invalidArgument (text "missing or invalid text field: " ++ field))
    throwIf (value.any isForbidden = true)
      (.invalidArgument (text "whitespace and control bytes are forbidden in: " ++ field))
    return value

def requireUnsigned (tree : Ptree) (field : Bytes) (minimum maximum : Nat) :
    Except Exception Nat :=
  match tree.field field with
  | none => .error (.invalidArgument (text "missing numeric field: " ++ field))
  | some value =>
    match fromChars 64 value with
    | some (parsed, []) => do
      throwIf (parsed < minimum ∨ parsed > maximum)
        (.invalidArgument (text "numeric field is out of range: " ++ field))
      return parsed
    | _ => .error (.invalidArgument (text "numeric field is out of range: " ++ field))

def optionalBoolean (tree : Ptree) (field : Bytes) (fallback : Bool) : Except Exception Bool :=
  match tree.field field with
  | none => .ok fallback
  | some value =>
    if value = text "true" then .ok true
    else if value = text "false" then .ok false
    else .error (.invalidArgument (text "boolean field must be true or false: " ++ field))

def credentialPath (env : ConfigEnvironment) (configDirectory : Bytes) (tls : Ptree)
    (field : Bytes) : Except Exception Bytes := do
  let path ← requireText tls field 4096
  let path := if env.isRelative path then env.append configDirectory path else path
  let path := env.absolute path
  throwIf (env.isRegularFile path = false)
    (.invalidArgument (text "credential is not a readable regular file: " ++ field))
  return path

/-- The branch of `validate_route` for a text with a colon. -/
def validateRouteV6 (parsers : AddressParsers) (route : Bytes) (allowDefaultRoute : Bool) :
    Except Exception Bytes :=
  match splitCidr route with
  | none => .error (.invalidArgument (text "route must use IPv6 CIDR notation: " ++ route))
  | some (addressText, prefixText) =>
    match parsePrefix 128 prefixText with
    | none => .error (.invalidArgument (text "IPv6 route prefix is out of range: " ++ route))
    | some prefixLength => do
      throwIf (prefixLength = 0 ∧ allowDefaultRoute = false)
        (.invalidArgument (text "a default route requires tunnel.allow_default_route=true"))
      match parsers.makeAddressV6 addressText with
      | some (network, 0) =>
        throwIf (network ≠ canonicalNetwork network prefixLength)
          (.invalidArgument
            (text "route address must be the canonical network address: " ++ route))
        return route
      | _ => .error (.invalidArgument (text "IPv6 route address is invalid: " ++ route))

/-- The branch of `validate_route` for a text without a colon. -/
def validateRouteV4 (route : Bytes) (allowDefaultRoute : Bool) : Except Exception Bytes :=
  match splitCidr route with
  | none => .error (.invalidArgument (text "route must use IPv4 or IPv6 CIDR notation: " ++ route))
  | some (addressText, prefixText) => do
    throwIf (47 ∈ prefixText)
      (.invalidArgument (text "route must use IPv4 or IPv6 CIDR notation: " ++ route))
    match parsePrefix 32 prefixText with
    | none => .error (.invalidArgument (text "route prefix is out of range: " ++ route))
    | some prefixLength =>
      throwIf (prefixLength = 0 ∧ allowDefaultRoute = false)
        (.invalidArgument (text "a default route requires tunnel.allow_default_route=true"))
      let address ← parseIpv4Address addressText
      let value : UInt32 :=
        address.toList.foldl (fun value octet => value <<< 8 ||| octet.toUInt32) 0
      let mask : UInt32 :=
        if prefixLength = 0 then 0 else 0xFFFFFFFF <<< UInt32.ofNat (32 - prefixLength)
      throwIf (value &&& mask ≠ value)
        (.invalidArgument (text "route address must be the canonical network address: " ++ route))
      return route

def validateRoute (parsers : AddressParsers) (route : Bytes) (allowDefaultRoute : Bool) :
    Except Exception Bytes :=
  if 58 ∈ route then validateRouteV6 parsers route allowDefaultRoute
  else validateRouteV4 route allowDefaultRoute

/-- The loop of `load_client_config` over the routes, with those it has taken. -/
def loadRoutes (parsers : AddressParsers) (allowDefaultRoute : Bool) (routes : List Bytes) :
    List (Bytes × Ptree) → Except Exception (List Bytes)
  | [] => .ok routes
  | (key, tree) :: entries => do
    throwIf (key ≠ [] ∨ tree.children.isEmpty = false)
      (.invalidArgument (text "tunnel.routes must be an array of CIDR strings"))
    let route ← validateRoute parsers tree.data allowDefaultRoute
    throwIf (route ∈ routes) (.invalidArgument (text "duplicate route: " ++ route))
    loadRoutes parsers allowDefaultRoute (routes ++ [route]) entries

/-- The part of `load_client_config` about the tunnel. -/
def loadTunnel (env : ConfigEnvironment) (tunnel : Ptree) (config : ClientConfig) :
    Except Exception ClientConfig := do
  let requestedMtu ← requireUnsigned tunnel (text "requested_mtu") kMinimumIpv6Mtu.toNat
    kMaximumTunnelMtu.toNat
  let allowDefaultRoute ← optionalBoolean tunnel (text "allow_default_route") false
  let entries := ((tunnel.child (text "routes")).map Ptree.children).getD []
  throwIf (entries = [] ∨ entries.length > 64)
    (.invalidArgument (text "tunnel.routes must contain between 1 and 64 routes"))
  let routes ← loadRoutes env.parsers allowDefaultRoute [] entries
  throwIf ((allowDefaultRoute = true ∧ (text "0.0.0.0/0" ∈ routes ∨ text "::/0" ∈ routes)) ∧
      (env.parsers.makeAddress config.serverHost = none ∨ env.scopeId config.serverHost ≠ 0))
    (.invalidArgument
      (text "full-tunnel mode requires a numeric server IP to prevent DNS leakage"))
  return { config with requestedMtu := UInt16.ofNat requestedMtu, routes, allowDefaultRoute }

/-- `load_client_config` on the document that it has read. -/
def loadDocument (env : ConfigEnvironment) (absoluteConfig : Bytes) (root : Ptree) :
    Except Exception ClientConfig := do
  ensureKeys root [text "schema_version", text "server", text "tls", text "tunnel"] (text "root")
  let version ← requireUnsigned root (text "schema_version") 1 1
  throwIf (version ≠ 1) (.invalidArgument (text "unsupported client configuration schema"))
  let server ← requireSection root (text "server")
  ensureKeys server [text "host", text "port", text "expected_name"] (text "server")
  let tls ← requireSection root (text "tls")
  ensureKeys tls [text "ca_file", text "certificate_chain_file", text "private_key_file"]
    (text "tls")
  let tunnel ← requireSection root (text "tunnel")
  ensureKeys tunnel [text "requested_mtu", text "routes", text "allow_default_route"]
    (text "tunnel")
  let serverHost ← requireText server (text "host") 253
  let serverPort ← requireUnsigned server (text "port") 1 (2 ^ 16 - 1)
  let expectedServerName ← requireText server (text "expected_name") 253
  let directory := env.parentPath absoluteConfig
  let caFile ← credentialPath env directory tls (text "ca_file")
  let certificateChainFile ← credentialPath env directory tls (text "certificate_chain_file")
  let privateKeyFile ← credentialPath env directory tls (text "private_key_file")
  env.validatePrivateKeyPermissions privateKeyFile
  loadTunnel env tunnel {
    serverHost
    serverPort := UInt16.ofNat serverPort
    expectedServerName
    caFile
    certificateChainFile
    privateKeyFile }

def loadClientConfig (env : ConfigEnvironment) (configFile : Bytes) :
    Except Exception ClientConfig :=
  let absoluteConfig := env.absolute configFile
  let size := (env.fileSize absoluteConfig).getD 0
  if size = 0 ∨ size > kMaximumConfigBytes then
    .error (.invalidArgument (text "configuration must be a non-empty regular file up to 64 KiB"))
  else
    match env.readJson absoluteConfig with
    | none => .error (.invalidArgument (text "configuration is not valid JSON"))
    | some root => loadDocument env absoluteConfig root

end PersonalVpn.Client
