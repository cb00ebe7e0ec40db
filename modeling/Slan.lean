import Slan.Lib.Transition
import Slan.Lib.Text
import Slan.Lib.Base64
import Slan.Lib.Json
import Slan.Lib.Table
import Slan.Lib.Mac
import Slan.Relay.Ticket
import Slan.Relay.Validator
import Slan.Relay.Protocol
import Slan.Relay.Runtime
import Slan.Relay.RuntimeSpec
import Slan.Relay.Invariant
import Slan.Relay.Expiry
import Slan.Relay.Expiry
import Slan.Client.RelayProtocol
import Slan.Client.RelayClient
import Slan.System.Wire
import Slan.System.Channel
import Slan.System.ChannelRuns
import Slan.Lib.Rfc3339
import Slan.Control.Directory
import Slan.Control.RelayClusters
import Slan.Control.RelayTickets
import Slan.System.TicketSignature
import Slan.System.Pairing
import Slan.Control.ControlServer
import Slan.Control.ControlSessionSpec
import Slan.Control.Hub
import Slan.Control.Reconnect
import Slan.Control.MessageDelivery
import Slan.Control.MessageLedger
import Slan.Control.MessageRuns
import Slan.Client.ControlWs
import Slan.Client.ControlSync
import Slan.Client.SyncRuns
import Slan.Client.ControlEvents
import Slan.Client.AckedEvents
import Slan.Client.Derp
import Slan.Client.DerpPool
import Slan.Client.P2p
import Slan.Client.PeerMerge
import Slan.Control.PathHealth
import Slan.System.DerpLink
import Slan.System.DirectLink
import Slan.System.RelayRanking
import Slan.Control.NodeOwnership
import Slan.Lib.Netip
import Slan.Lib.Program
import Slan.Lib.Relation
import Slan.Networks.JoinKeys
import Slan.Networks.LeasePool
import Slan.Lib.Marshal
import Slan.Networks.ActiveNetwork
import Slan.Rest.Agreement
import Slan.Client.AppCore
import Slan.Client.DerpPoolRuns
import Slan.Client.HelperHost
import Slan.Client.LinuxAdapter
import Slan.Client.LinuxKernel
import Slan.Client.PathTruth
import Slan.Client.TunnelTracking
import Slan.Client.WsFrames
import Slan.Client.WsStream
import Slan.Relay.Daemon
import Slan.System.TicketReuse
import Slan.Client.AppProcess
import Slan.Client.Restart
import Slan.Lib.Faults
import Slan.Lib.Reservation
import Slan.Maps.ControlChannel
import Slan.Maps.MapConsistency
import Slan.Networks.Allocation
import Slan.Networks.Atomicity
import Slan.Client.KeyProvider
import Slan.Lib.Announcements
import Slan.Maps.Fanouts
import Slan.Maps.RevisionOrder
import Slan.System.KeyAgreement
import Slan.Access.CallbackDelivery
import Slan.Access.CallbackProgress
import Slan.Lib.Broadcast
import Slan.Lib.GoJson
import Slan.Lib.Interleaving
import Slan.Maps.ControlWs
import Slan.Maps.DeviceStatus
import Slan.Maps.HubScope
import Slan.Maps.OnlineDevices
import Slan.Ops.AdminStatements
import Slan.Ops.Authorization
import Slan.Ops.RecordUpdates
import Slan.Ws.Messages
import Slan.Ws.PushMessages
import Slan.Ws.SyncEvent
import Slan.Access.AuthCallbackService
import Slan.Access.CallbackApplied
import Slan.Client.Attribution
import Slan.Client.KeyFile
import Slan.Client.WarmUp
import Slan.Client.WsCodec
import Slan.Control.ConnectPlan
import Slan.Control.HealthWindows
import Slan.Control.PlanOrder
import Slan.Control.RelayChoice
import Slan.Lib.Calendar
import Slan.Maps.Audience
import Slan.Maps.Isolation
import Slan.Networks.Owners
import Slan.Networks.StoredSubnets
import Slan.Relay.TimestampExact
import Slan.System.TicketRelay
import Slan.App.AssignedAddresses
import Slan.Client.DirectEndpoints
import Slan.Client.HttpTransport
import Slan.Client.LinkHealth
import Slan.Client.ProbeReplies
import Slan.Client.Reassigned
import Slan.Configs.Config
import Slan.Configs.Layers
import Slan.Control.ConnectRetries
import Slan.Maps.EndpointFreshness
import Slan.Networks.DnsLists
import Slan.App.BusyFlag
import Slan.Control.RankingOrders
import Slan.Lib.Plist
import Slan.Lib.SwiftText
import Slan.Macos.PacketTunnelManager
import Slan.Macos.PacketTunnelProvider
import Slan.Macos.TunnelHandover
import Slan.Control.PeerCandidates
import Slan.Ws.Answers
import Slan.Ws.Greeting
import Slan.Ws.NetworkMaps
import Slan.Ws.Requests
import Slan.Ops.Seeding
import Slan.Access.Tokens
import Slan.App.HelperCalls
