import RustProxy.Foundation.Transition
import RustProxy.Foundation.StreamDecoder
import RustProxy.Proto.Message
import RustProxy.Proto.Frame
import RustProxy.Bridge.Delivery
import RustProxy.Bridge.Progress
import RustProxy.Control.Api
import RustProxy.Control.Concurrent
import RustProxy.Foundation.BoundedChannel
import RustProxy.Foundation.RwLock
import RustProxy.Server.Authentication
import RustProxy.Server.ClientSession
import RustProxy.Server.SessionDeadlock
import RustProxy.Server.SessionReplacement
import RustProxy.Server.Tunnel
import RustProxy.Web.App
import RustProxy.Bridge.UdpFidelity
import RustProxy.Client.Worker
import RustProxy.Control.Announcements
import RustProxy.Control.VirtualHosts
import RustProxy.Fleet.Coming
import RustProxy.Fleet.Completeness
import RustProxy.Fleet.FirstUse
import RustProxy.Fleet.Soundness
import RustProxy.Server.UdpSessions
import RustProxy.Server.UdpTables
import RustProxy.Server.WorkConns
import RustProxy.Server.FirstResponse
import RustProxy.Server.OnlineList
import RustProxy.Control.Connections
import RustProxy.Server.UdpPort
import RustProxy.Control.Validity
import RustProxy.Control.PartialUpdates
import RustProxy.Control.ManagerMap
import RustProxy.Control.GhostNames
import RustProxy.Web.Lockout
import RustProxy.Web.Guesses
import RustProxy.Bridge.HalfClose
import RustProxy.Proto.Boundaries
import RustProxy.Server.ClientHello
import RustProxy.Server.TunnelGate
import RustProxy.Control.Restart
import RustProxy.Fleet.Teardown
import RustProxy.Control.LetterCase
import RustProxy.Server.PartialPeek
import RustProxy.Client.ProxyProtocol
import RustProxy.Control.Atomicity
import RustProxy.Server.UdpDeadlock
import RustProxy.Server.UdpSetup
import RustProxy.Server.UdpBlackhole
import RustProxy.Web.Push
import RustProxy.Proto.Reception
import RustProxy.Client.OpenWorkConnection
import RustProxy.Control.Bandwidth
import RustProxy.Web.LoginIsolation
import RustProxy.Server.Heartbeat
import RustProxy.Control.Lifecycle
import RustProxy.Server.Certificate
import RustProxy.Web.EditDialog
import RustProxy.Bridge.Wire
import RustProxy.Bridge.Settle
