import PersonalVpn.Basic
import PersonalVpn.Broker.BrokerProtocol
import PersonalVpn.Broker.RequestCodec
import PersonalVpn.Client.ClientConfig
import PersonalVpn.Client.ClientDelivery
import PersonalVpn.Client.ClientNetworkTransaction
import PersonalVpn.Client.ClientPhases
import PersonalVpn.Client.ClientReads
import PersonalVpn.Client.ClientRun
import PersonalVpn.Client.ClientRuntime
import PersonalVpn.Client.ClientWrites
import PersonalVpn.Client.ConnectionTimer
import PersonalVpn.Client.DefaultRoutes
import PersonalVpn.Client.FailClosed
import PersonalVpn.Client.FilteringPlatform
import PersonalVpn.Client.FullTunnelRoutes
import PersonalVpn.Client.KillSwitchFilters
import PersonalVpn.Client.KillSwitchPolicy
import PersonalVpn.Client.KillSwitchRemovals
import PersonalVpn.Client.KillSwitchRuns
import PersonalVpn.Client.LastingRoutes
import PersonalVpn.Client.NetworkReversal
import PersonalVpn.Client.RouteAgreement
import PersonalVpn.Client.RuntimeEnding
import PersonalVpn.Client.RuntimeGenerations
import PersonalVpn.Client.RuntimeIo
import PersonalVpn.Client.RuntimeSteps
import PersonalVpn.Client.TerminalFaults
import PersonalVpn.Client.TlsTunnelClient
import PersonalVpn.Client.WindowsCalls
import PersonalVpn.Client.WindowsClient
import PersonalVpn.Client.WindowsHost
import PersonalVpn.Client.WindowsKillSwitch
import PersonalVpn.Client.WindowsNetworkBackend
import PersonalVpn.Client.WindowsReversal
import PersonalVpn.Connection
import PersonalVpn.Core.AddressText
import PersonalVpn.Core.ClientHistory
import PersonalVpn.Core.ClientSessionController
import PersonalVpn.Core.ClientSteps
import PersonalVpn.Core.Conforming
import PersonalVpn.Core.Fleet
import PersonalVpn.Core.FleetSafety
import PersonalVpn.Core.FrameWriter
import PersonalVpn.Core.Greeting
import PersonalVpn.Core.Ipv4Text
import PersonalVpn.Core.LeaseAllocation
import PersonalVpn.Core.LeaseInvariant
import PersonalVpn.Core.LeaseManager
import PersonalVpn.Core.LeaseOperations
import PersonalVpn.Core.LeaseRuns
import PersonalVpn.Core.Noninterference
import PersonalVpn.Core.OutboundFrameQueue
import PersonalVpn.Core.Packet
import PersonalVpn.Core.PoolPolicy
import PersonalVpn.Core.QueueAccounting
import PersonalVpn.Core.RouterRefinement
import PersonalVpn.Core.SessionController
import PersonalVpn.Core.SessionHistory
import PersonalVpn.Core.SessionLeases
import PersonalVpn.Core.SessionSteps
import PersonalVpn.Core.StaleLeases
import PersonalVpn.Core.Tunnel
import PersonalVpn.Core.TunnelAgreement
import PersonalVpn.Core.TunnelErrors
import PersonalVpn.Core.TunnelRouter
import PersonalVpn.Lib.BigEndian
import PersonalVpn.Lib.Bits
import PersonalVpn.Lib.BoundedFifo
import PersonalVpn.Lib.Codec
import PersonalVpn.Lib.Decimal
import PersonalVpn.Lib.Fallible
import PersonalVpn.Lib.FifoWriter
import PersonalVpn.Lib.LittleEndian
import PersonalVpn.Lib.Mask
import PersonalVpn.Lib.Ownership
import PersonalVpn.Lib.Progress
import PersonalVpn.Lib.Reversal
import PersonalVpn.Lib.Run
import PersonalVpn.Lib.Sequenced
import PersonalVpn.Lib.StreamParser
import PersonalVpn.Lib.WeightedRules
import PersonalVpn.Protocol.ControlCodec
import PersonalVpn.Protocol.ControlMessages
import PersonalVpn.Protocol.DecoderProgress
import PersonalVpn.Protocol.Frame
import PersonalVpn.Protocol.FrameDecoding
import PersonalVpn.Protocol.FrameStream
import PersonalVpn.Protocol.Wire
import PersonalVpn.ReadBoundaries
import PersonalVpn.Server.Admission
import PersonalVpn.Server.AdmissionAccounts
import PersonalVpn.Server.Drain
import PersonalVpn.Server.IdleDeadline
import PersonalVpn.Server.LinuxTunDevice
import PersonalVpn.Server.PolicyErrors
import PersonalVpn.Server.ProcessExit
import PersonalVpn.Server.RouteCoherence
import PersonalVpn.Server.RouteInvariant
import PersonalVpn.Server.ServableConfig
import PersonalVpn.Server.ServerConfig
import PersonalVpn.Server.ServerProcess
import PersonalVpn.Server.SessionActions
import PersonalVpn.Server.SessionDelivery
import PersonalVpn.Server.SessionEvents
import PersonalVpn.Server.SessionMetrics
import PersonalVpn.Server.SessionReads
import PersonalVpn.Server.SessionRun
import PersonalVpn.Server.SessionTransport
import PersonalVpn.Server.SessionWrites
import PersonalVpn.Server.TlsTunnelServer
import PersonalVpn.Server.TlsTunnelSession
import PersonalVpn.Server.TrafficAccounting
import PersonalVpn.Server.TrafficCounters
import PersonalVpn.Server.TunDiscipline
import PersonalVpn.Server.TunTraffic
import PersonalVpn.Server.TunWriteOwnership
import PersonalVpn.WriterDiscipline
