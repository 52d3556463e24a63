import Rustylink.Foundation.Transition
import Rustylink.Foundation.TaskPool
import Rustylink.Foundation.Text
import Rustylink.Foundation.Net
import Rustylink.Foundation.NetText
import Rustylink.Foundation.Fallible
import Rustylink.Foundation.Cascade
import Rustylink.Foundation.SnapshotStore
import Rustylink.Foundation.FileSystem
import Rustylink.Foundation.SortedMap
import Rustylink.Foundation.Table
import Rustylink.Foundation.Framing
import Rustylink.Foundation.StableSort
import Rustylink.Foundation.Glob
import Rustylink.Foundation.FirstMatch
import Rustylink.Foundation.UrlAuthority
import Rustylink.Foundation.SocketText
import Rustylink.Foundation.Checked
import Rustylink.Foundation.Trimming
import Rustylink.Foundation.PartialUpdate
import Rustylink.Foundation.Utf8
import Rustylink.Foundation.Hkdf
import Rustylink.Foundation.Base64
import Rustylink.Foundation.WireFields
import Rustylink.Foundation.WatchChannel
import Rustylink.Foundation.Hex
import Rustylink.Foundation.Cbc
import Rustylink.Core.Vpn
import Rustylink.Core.Login
import Rustylink.Core.VpnConfig
import Rustylink.Core.DotVisits
import Rustylink.Core.Failover
import Rustylink.Core.NodeChoice
import Rustylink.Core.Totp
import Rustylink.Api.Vpn
import Rustylink.Api.Auth
import Rustylink.Api.Client
import Rustylink.Api.Dot
import Rustylink.Api.Signing
import Rustylink.Api.KeyDerivation
import Rustylink.Api.SignedRequest
import Rustylink.Api.PlainCrates
import Rustylink.Api.SignatureInput
import Rustylink.Api.PasswordCipher
import Rustylink.Outbound.Dialer
import Rustylink.Outbound.Resolver
import Rustylink.Outbound.Interface
import Rustylink.Outbound.Bypass
import Rustylink.Outbound.Connector
import Rustylink.Outbound.Literal
import Rustylink.Outbound.HostLookup
import Rustylink.Dns.Config
import Rustylink.Dns.Synthesis
import Rustylink.Dns.Resolver
import Rustylink.Dns.Answers
import Rustylink.Dns.Forwarder
import Rustylink.Dns.Subdomain
import Rustylink.Dns.HashOrder
import Rustylink.Dns.ManagedNames
import Rustylink.Dns.NormalForm
import Rustylink.Tunnel.Reconnect
import Rustylink.Tunnel.ReconnectLaw
import Rustylink.Tunnel.Route
import Rustylink.Tunnel.Hijack
import Rustylink.Tunnel.Session
import Rustylink.Tunnel.Endpoint
import Rustylink.Tunnel.Release
import Rustylink.Tunnel.Started
import Rustylink.Tunnel.Listener
import Rustylink.Tunnel.DnsPaths
import Rustylink.Tunnel.Transport
import Rustylink.Tunnel.RouteTable
import Rustylink.Tunnel.Probe
import Rustylink.Tunnel.ProbeWindow
import Rustylink.Daemon.Config
import Rustylink.Daemon.State
import Rustylink.Daemon.System
import Rustylink.Daemon.Effects
import Rustylink.Daemon.Exclusive
import Rustylink.Daemon.Progress
import Rustylink.Daemon.Disconnect
import Rustylink.Daemon.Persist
import Rustylink.Daemon.Logout
import Rustylink.Daemon.AtomicWrite
import Rustylink.Daemon.AuthCoordinator
import Rustylink.Daemon.AuthMoves
import Rustylink.Daemon.PendingFlows
import Rustylink.Daemon.SecondFactor
import Rustylink.Daemon.UsableTenant
import Rustylink.Daemon.AuthCalls
import Rustylink.Daemon.FlowBinding
import Rustylink.Daemon.LogoutMemory
import Rustylink.Daemon.Activation
import Rustylink.Daemon.AuthStates
import Rustylink.Daemon.Restart
import Rustylink.Daemon.AuthTunnel
import Rustylink.Daemon.Watch
import Rustylink.Daemon.Watchers
import Rustylink.Daemon.Installation
import Rustylink.Daemon.Disconnecting
import Rustylink.Daemon.Requests
import Rustylink.Daemon.Attempts
import Rustylink.Daemon.ConnectStreak
import Rustylink.Daemon.Settings
import Rustylink.Daemon.HttpPool
import Rustylink.Daemon.FailedOps
import Rustylink.Daemon.Resume
import Rustylink.Daemon.Report
import Rustylink.Daemon.SkipChallenge
import Rustylink.Daemon.DotClient
import Rustylink.Daemon.Latency
import Rustylink.Daemon.ProbePath
import Rustylink.Daemon.SwitchNode
import Rustylink.Daemon.Supervisor
import Rustylink.Daemon.DeadTunnel
import Rustylink.Daemon.ComputeOtp
import Rustylink.Daemon.ConfigLens
import Rustylink.Daemon.DnsListener
import Rustylink.Dns.Server
import Rustylink.Tunnel.PacketFlow
import Rustylink.Outbound.SocketUse
import Rustylink.Daemon.ConnectKeys
