import EdgeBootstrap.Library.Doubles
import EdgeBootstrap.Library.Effects
import EdgeBootstrap.Library.Entries
import EdgeBootstrap.Library.Fallible
import EdgeBootstrap.Library.Families
import EdgeBootstrap.Library.Inquiry
import EdgeBootstrap.Library.MetricFamilies
import EdgeBootstrap.Library.Noninterference
import EdgeBootstrap.Library.Overlays
import EdgeBootstrap.Library.PrometheusText
import EdgeBootstrap.Library.Ranks
import EdgeBootstrap.Library.Refinement
import EdgeBootstrap.Library.Registrations
import EdgeBootstrap.Library.StepMachine
import EdgeBootstrap.Library.Tallies
import EdgeBootstrap.Library.Traced
import EdgeBootstrap.Rust.Paths
import EdgeBootstrap.Rust.Text
import EdgeBootstrap.Rust.Uri
import EdgeBootstrap.Platform
import EdgeBootstrap.Config.Acceptance
import EdgeBootstrap.Config.ConfigOverride
import EdgeBootstrap.Config.DottedSections
import EdgeBootstrap.Config.FailClosed
import EdgeBootstrap.Config.Layers
import EdgeBootstrap.Config.Loader
import EdgeBootstrap.Config.OverlappingLoads
import EdgeBootstrap.Config.Reading
import EdgeBootstrap.Config.RepeatedDirs
import EdgeBootstrap.Config.RoundTrip
import EdgeBootstrap.Config.RuntimeConfig
import EdgeBootstrap.Config.Sections
import EdgeBootstrap.Config.Snapshots
import EdgeBootstrap.Config.TenantIsolation
import EdgeBootstrap.Config.TenantLayers
import EdgeBootstrap.Config.Toml
import EdgeBootstrap.Config.Validator
import EdgeBootstrap.Config.Xdg
import EdgeBootstrap.Monitor.Attribution
import EdgeBootstrap.Monitor.Autoscale
import EdgeBootstrap.Monitor.InFlight
import EdgeBootstrap.Monitor.LatencySignals
import EdgeBootstrap.Monitor.LatencyWindow
import EdgeBootstrap.Monitor.LifecycleMonitor
import EdgeBootstrap.Monitor.LoadMonitor
import EdgeBootstrap.Monitor.Percentile
import EdgeBootstrap.Monitor.Ticks
import EdgeBootstrap.Monitor.TrafficCounters
import EdgeBootstrap.Monitor.WindowSafety
import EdgeBootstrap.Transport.CompositeGrpc
import EdgeBootstrap.Transport.Exec
import EdgeBootstrap.Transport.Ingress
import EdgeBootstrap.Intrusion.Guard
import EdgeBootstrap.Dispatch.AppState
import EdgeBootstrap.Dispatch.DecodeErrors
import EdgeBootstrap.Dispatch.GrpcInterleaving
import EdgeBootstrap.Dispatch.GrpcJob
import EdgeBootstrap.Dispatch.GrpcReference
import EdgeBootstrap.Dispatch.Handler
import EdgeBootstrap.Dispatch.HttpJob
import EdgeBootstrap.Dispatch.JobCalls
import EdgeBootstrap.Dispatch.JobHealth
import EdgeBootstrap.Dispatch.JsonCodec
import EdgeBootstrap.Dispatch.Registration
import EdgeBootstrap.Dispatch.RouteInterleaving
import EdgeBootstrap.Dispatch.RouteOwnership
import EdgeBootstrap.Dispatch.TransportParity
import EdgeBootstrap.Dispatch.Unserialisable
import EdgeBootstrap.Egress.ConcurrentCalls
import EdgeBootstrap.Egress.LoadBalanced
import EdgeBootstrap.Egress.Recovery
import EdgeBootstrap.Egress.Selections
import EdgeBootstrap.Egress.ServiceIsolation
import EdgeBootstrap.Egress.ServiceRegistry
import EdgeBootstrap.Egress.StreamOutcomes
import EdgeBootstrap.Metrics.Exposition
import EdgeBootstrap.Metrics.Families
import EdgeBootstrap.Metrics.Handler
import EdgeBootstrap.Observability.ConcurrentSpans
import EdgeBootstrap.Observability.LogDrain
import EdgeBootstrap.Observability.SharedMetrics
import EdgeBootstrap.Observability.TracingBridge
import EdgeBootstrap.Runtime.Builder
import EdgeBootstrap.Runtime.BuilderCalls
import EdgeBootstrap.Runtime.CallViews
import EdgeBootstrap.Runtime.Endings
import EdgeBootstrap.Runtime.EndpointPaths
import EdgeBootstrap.Runtime.EntryPoints
import EdgeBootstrap.Runtime.GrpcOptions
import EdgeBootstrap.Runtime.GuardCoverage
import EdgeBootstrap.Runtime.HealthHandler
import EdgeBootstrap.Runtime.HealthRaces
import EdgeBootstrap.Runtime.HealthVisibility
import EdgeBootstrap.Runtime.Histories
import EdgeBootstrap.Runtime.HookAlternation
import EdgeBootstrap.Runtime.Leftovers
import EdgeBootstrap.Runtime.LifecycleVerdict
import EdgeBootstrap.Runtime.Manager
import EdgeBootstrap.Runtime.ManagerSteps
import EdgeBootstrap.Runtime.MethodCoverage
import EdgeBootstrap.Runtime.Run
import EdgeBootstrap.Runtime.Runner
import EdgeBootstrap.Runtime.Screening
import EdgeBootstrap.Runtime.Serve
import EdgeBootstrap.Runtime.ServeRuns
import EdgeBootstrap.Runtime.ServeSteps
import EdgeBootstrap.Runtime.ServedServices
import EdgeBootstrap.Runtime.ShutdownRaces
import EdgeBootstrap.Runtime.Spawning
import EdgeBootstrap.Runtime.Stacks
import EdgeBootstrap.Runtime.StartFailures
import EdgeBootstrap.Runtime.Types
import EdgeBootstrap.Runtime.ValidatedStart
