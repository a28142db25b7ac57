import PersonalVpn.Core.AddressText

namespace PersonalVpn

namespace Server

open PersonalVpn.Core Protocol

inductive MetricsFormat where
  | json
  | prometheus
  deriving DecidableEq, Repr

structure ServerConfig where
  listenAddress : Bytes := text "0.0.0.0"
  listenPort : UInt16 := 8443
  tunName : Bytes := text "pvpn0"
  certificateChainFile : Bytes := []
  privateKeyFile : Bytes := []
  clientCaFile : Bytes := []
  clientCrlFile : Bytes := []
  firstLeaseAddress : Bytes := text "10.8.0.2"
  lastLeaseAddress : Bytes := text "10.8.0.254"
  gatewayAddress : Bytes := text "10.8.0.1"
  ipv6PrefixAddress : Bytes := text "fd00:8::"
  ipv6GatewayAddress : Bytes := text "fd00:8::1"
  prefixLength : UInt8 := 24
  mtu : UInt16 := 1400
  leaseSeconds : UInt32 := 3600
  workerThreads : Nat := 2
  maximumSessions : Nat := 1024
  handshakeTimeoutSeconds : UInt32 := 10
  idleTimeoutSeconds : UInt32 := 300
  metricsIntervalSeconds : UInt32 := 60
  metricsFormat : MetricsFormat := .json
  showHelp : Bool := false
  showVersion : Bool := false
  deriving DecidableEq, Repr

def parseUnsigned (option value : Bytes) (minimum maximum : Nat) : Except Exception Nat := do
  match fromChars 64 value with
  | some (parsed, []) =>
    throwIf (parsed < minimum ∨ parsed > maximum)
      (.invalidArgument (text "invalid value for " ++ option ++ text ": " ++ value))
    return parsed
  | _ => throw (.invalidArgument (text "invalid value for " ++ option ++ text ": " ++ value))

namespace ServerConfig

/-- A numeric option, with its range and the field it sets. -/
def setUnsigned (option value : Bytes) (minimum maximum : Nat) (set : Nat → ServerConfig) :
    Except Exception ServerConfig := do
  let parsed ← parseUnsigned option value minimum maximum
  return set parsed

/-- The options of `parse_server_arguments` that take a value. -/
def setOption (config : ServerConfig) (option value : Bytes) : Except Exception ServerConfig :=
  if option = text "--listen-address" then .ok { config with listenAddress := value }
  else if option = text "--port" then
    setUnsigned option value 1 (2 ^ 16 - 1) fun n => { config with listenPort := UInt16.ofNat n }
  else if option = text "--tun-name" then .ok { config with tunName := value }
  else if option = text "--server-cert" then .ok { config with certificateChainFile := value }
  else if option = text "--server-key" then .ok { config with privateKeyFile := value }
  else if option = text "--client-ca" then .ok { config with clientCaFile := value }
  else if option = text "--client-crl" then .ok { config with clientCrlFile := value }
  else if option = text "--lease-start" then .ok { config with firstLeaseAddress := value }
  else if option = text "--lease-end" then .ok { config with lastLeaseAddress := value }
  else if option = text "--gateway" then .ok { config with gatewayAddress := value }
  else if option = text "--ipv6-prefix" then .ok { config with ipv6PrefixAddress := value }
  else if option = text "--ipv6-gateway" then .ok { config with ipv6GatewayAddress := value }
  else if option = text "--prefix-length" then
    setUnsigned option value 1 32 fun n => { config with prefixLength := UInt8.ofNat n }
  else if option = text "--mtu" then
    setUnsigned option value kMinimumIpv6Mtu.toNat kMaximumTunnelMtu.toNat
      fun n => { config with mtu := UInt16.ofNat n }
  else if option = text "--lease-seconds" then
    setUnsigned option value 1 (2 ^ 32 - 1)
      fun n => { config with leaseSeconds := UInt32.ofNat n }
  else if option = text "--threads" then
    setUnsigned option value 1 256 fun n => { config with workerThreads := n }
  else if option = text "--max-sessions" then
    setUnsigned option value 1 1000000 fun n => { config with maximumSessions := n }
  else if option = text "--handshake-timeout" then
    setUnsigned option value 1 300
      fun n => { config with handshakeTimeoutSeconds := UInt32.ofNat n }
  else if option = text "--idle-timeout" then
    setUnsigned option value 1 86400 fun n => { config with idleTimeoutSeconds := UInt32.ofNat n }
  else if option = text "--metrics-interval" then
    setUnsigned option value 0 86400
      fun n => { config with metricsIntervalSeconds := UInt32.ofNat n }
  else if option = text "--metrics-format" then
    if value = text "json" then .ok { config with metricsFormat := .json }
    else if value = text "prometheus" then .ok { config with metricsFormat := .prometheus }
    else .error (.invalidArgument (text "--metrics-format must be json or prometheus"))
  else .error (.invalidArgument (text "unknown option: " ++ option))

/-- The loop of `parse_server_arguments`. -/
def parseOptions (config : ServerConfig) : List Bytes → Except Exception ServerConfig
  | [] => .ok config
  | option :: arguments =>
    if option = text "--help" ∨ option = text "-h" then
      parseOptions { config with showHelp := true } arguments
    else if option = text "--version" then
      parseOptions { config with showVersion := true } arguments
    else
      match arguments with
      | [] => .error (.invalidArgument (text "missing value for " ++ option))
      | value :: arguments => do
        let config ← config.setOption option value
        parseOptions config arguments

/-- The manager that `validate` builds to check the pool and `run_server` builds to serve from. -/
def leaseManager (parsers : AddressParsers) (config : ServerConfig) :
    Except Exception LeaseManager := do
  let first ← parseIpv4Address config.firstLeaseAddress
  let last ← parseIpv4Address config.lastLeaseAddress
  let gateway ← parseIpv4Address config.gatewayAddress
  let ipv6Prefix ← parseIpv6Address parsers config.ipv6PrefixAddress
  let ipv6Gateway ← parseIpv6Address parsers config.ipv6GatewayAddress
  LeaseManager.create first last gateway config.prefixLength config.mtu config.leaseSeconds.toNat
    ipv6Prefix ipv6Gateway 64

def validate (parsers : AddressParsers) (config : ServerConfig) : Except Exception Unit :=
  if config.showHelp ∨ config.showVersion then .ok ()
  else do
    throwIf (config.certificateChainFile = [] ∨ config.privateKeyFile = [] ∨
        config.clientCaFile = [])
      (.invalidArgument (text "--server-cert, --server-key, and --client-ca are required"))
    throwIf (parsers.makeAddress config.listenAddress = none)
      (.invalidArgument (text "--listen-address must be a valid IPv4 or IPv6 address"))
    throwIf (config.tunName = [] ∨ config.tunName.length > 15)
      (.invalidArgument (text "--tun-name must contain between 1 and 15 bytes"))
    let _ ← config.leaseManager parsers
    return ()

end ServerConfig

def parseServerArguments (parsers : AddressParsers) (arguments : List Bytes) :
    Except Exception ServerConfig := do
  let config ← ServerConfig.parseOptions {} arguments
  config.validate parsers
  return config

end Server

end PersonalVpn
