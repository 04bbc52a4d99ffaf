import Asabru.Core.Control
import Asabru.Config.Xml
import Asabru.Config.Types
import Asabru.Config.ProxyLoader
import Asabru.Config.ProxyDocument
import Asabru.Config.ProtocolLoader
import Asabru.Config.ProtocolDocument
import Asabru.Config.GatewayLoader
import Asabru.Config.Parse
import Asabru.Config.Pipelines
import Asabru.Server.State
import Asabru.Server.Resolve
import Asabru.Core.Alias
import Asabru.Server.ProxyServer
import Asabru.Server.ProxyStart
import Asabru.Core.Heap
import Asabru.Core.Precedence
import Asabru.Core.Interleave
import Asabru.Core.Readers
import Asabru.Core.Json
import Asabru.Server.RouteHandler
import Asabru.Server.ProtocolServer
import Asabru.Server.GatewayServer
import Asabru.Server.Process
import Asabru.Server.Launch
import Asabru.Server.Serving
import Asabru.Server.Interleaving
import Asabru.Scenarios.LoadAtomicity
import Asabru.Scenarios.Isolation
import Asabru.Scenarios.RouteGate
import Asabru.Scenarios.RouteAnswers
import Asabru.Scenarios.ServiceUpdate
import Asabru.Scenarios.ReloadReply
import Asabru.Scenarios.ReloadRestart
import Asabru.Scenarios.Reapplication
import Asabru.Scenarios.Serializability
import Asabru.Scenarios.VisibleLists
import Asabru.Scenarios.ProxySection
import Asabru.Scenarios.ProtocolSection
import Asabru.Scenarios.GatewayTable
import Asabru.Core.Registry
import Asabru.Server.Registration
import Asabru.Scenarios.SocketRegistries
import Asabru.Scenarios.StartedPipelines
import Asabru.Core.Cursor
import Asabru.Config.GatewayDocument
import Asabru.Config.Pointers
import Asabru.Scenarios.DocumentSafety
import Asabru.Config.Indeterminate
import Asabru.Server.DocumentTable
import Asabru.Config.RequestDocument
import Asabru.Scenarios.UninitialisedFields
import Asabru.Server.Resolvable
import Asabru.Core.FirstEdit
import Asabru.Config.DocumentEdit
import Asabru.Server.ServiceEdit
import Asabru.Scenarios.DocumentUpdates
import Asabru.Server.Targets
import Asabru.Server.Backends
import Asabru.Scenarios.ValidTargets
import Asabru.Server.Quotes
import Asabru.Scenarios.ManagementReplies
import Asabru.Config.Download
import Asabru.Scenarios.ConfigDownload
import Asabru.Config.FactoryCalls
import Asabru.Scenarios.PipelineStore
import Asabru.Scenarios.LiveHistory
import Asabru.Scenarios.ConcurrentBackends
import Asabru.Core.Progress
import Asabru.Scenarios.Completion
import Asabru.Config.Numerals
import Asabru.Config.Render
import Asabru.Config.Ranges
import Asabru.Scenarios.RoundTrip
import Asabru.Server.Bootstrap
import Asabru.Scenarios.Restarts
import Asabru.Core.Signals
import Asabru.Server.Main
import Asabru.Scenarios.Shutdown
import Asabru.Server.Management
import Asabru.Scenarios.ManagementGate
import Asabru.Scenarios.ConcurrentGate
import Asabru.Server.Connections
import Asabru.Core.EditLog
import Asabru.Scenarios.UpdateHistory
import Asabru.Scenarios.ReachableLists
