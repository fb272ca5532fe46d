import EdgeGateway.Websocket.MessageSequence
import EdgeGateway.HttpProxy.PathSyntax
import EdgeGateway.Http.HeaderMap
import EdgeGateway.Library.IpAddress
import EdgeGateway.Security.ClientAddress
import EdgeGateway.HttpProxy.Headers
import EdgeGateway.IpBlocking.Config
import EdgeGateway.Library.Table
import EdgeGateway.IpBlocking.State
import EdgeGateway.Library.CrashDisk
import EdgeGateway.IpBlocking.Persistence
import EdgeGateway.IpBlocking.Runtime
import EdgeGateway.IpBlocking.Execution
import EdgeGateway.IpBlocking.Bounds
import EdgeGateway.IpBlocking.Justification
import EdgeGateway.IpBlocking.Durability
import EdgeGateway.IpBlocking.Handover
import EdgeGateway.Library.KeyedIndex
import EdgeGateway.Http.Request
import EdgeGateway.Routing.Policy
import EdgeGateway.Routes.ExactTable
import EdgeGateway.Grpc.Routes
import EdgeGateway.Routes.Table
import EdgeGateway.HttpProxy.Upstream
import EdgeGateway.HttpProxy.Routes
import EdgeGateway.Configuration.Sections
import EdgeGateway.Configuration.FileConfig
import EdgeGateway.Configuration.RouteTables
import EdgeGateway.Gateway.Listener
import EdgeGateway.Websocket.BoundedMessages
import EdgeGateway.HttpProxy.Resolution
import EdgeGateway.HttpProxy.Rewriting
import EdgeGateway.Configuration.Spelling
import EdgeGateway.Routing.Authority
import EdgeGateway.HttpProxy.Authority
import EdgeGateway.IpBlocking.RoundTrip
import EdgeGateway.IpBlocking.StateText
import EdgeGateway.Library.Reservations
import EdgeGateway.Tls.Store
import EdgeGateway.Acme.Storage
import EdgeGateway.HttpProxy.Pool
import EdgeGateway.HttpProxy.Http1Reuse
import EdgeGateway.HttpProxy.Http2Reaping
import EdgeGateway.HttpProxy.HopHeaders
import EdgeGateway.Library.BitPrefix
import EdgeGateway.Security.Membership
import EdgeGateway.IpBlocking.MappedAddress
import EdgeGateway.Tls.Resolver
import EdgeGateway.Tls.Naming
import EdgeGateway.Tls.Replacement
import EdgeGateway.IpBlocking.Transaction
import EdgeGateway.Tls.HostNames
import EdgeGateway.IpBlocking.Drain
import EdgeGateway.IpBlocking.Detection
import EdgeGateway.Library.Lines
import EdgeGateway.Security.Cloudflare
import EdgeGateway.HttpProxy.LateTrailers
import EdgeGateway.Library.Channel
import EdgeGateway.Websocket.ExtendedConnect
import EdgeGateway.Library.Trimming
import EdgeGateway.Websocket.Subprotocol
import EdgeGateway.IpBlocking.Orphan
import EdgeGateway.Websocket.FrameStatistics
import EdgeGateway.Websocket.MessageArithmetic
import EdgeGateway.Library.AtomicPrograms
import EdgeGateway.Observability.Runtime
import EdgeGateway.Library.SignedInteger
import EdgeGateway.Acme.Renewal
import EdgeGateway.Library.Procedures
import EdgeGateway.Acme.Challenges
import EdgeGateway.Library.LocalProofs
import EdgeGateway.Library.Supervision
import EdgeGateway.Relay.Delivery
import EdgeGateway.Relay.Ending
import EdgeGateway.Relay.TcpRelay
import EdgeGateway.Relay.Violations
import EdgeGateway.Gateway.Admission
import EdgeGateway.Gateway.AdmissionAccount
import EdgeGateway.HttpProxy.Connecting
import EdgeGateway.HttpProxy.ConnectionAccount
import EdgeGateway.HttpProxy.Wakeups
import EdgeGateway.HttpProxy.Forwarding
import EdgeGateway.Gateway.Conveyance
import EdgeGateway.Gateway.Introduction
