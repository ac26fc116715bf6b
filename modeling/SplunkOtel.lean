import SplunkOtel.Configuration.AttributesList
import SplunkOtel.Configuration.ConvertSubstitution
import SplunkOtel.Configuration.Declarative
import SplunkOtel.Configuration.ExporterEndpoints
import SplunkOtel.Configuration.ExporterTypes
import SplunkOtel.Configuration.Fetch
import SplunkOtel.Configuration.LoadConfiguration
import SplunkOtel.Configuration.NullNodes
import SplunkOtel.Configuration.NullScalars
import SplunkOtel.Configuration.Pipelines
import SplunkOtel.Configuration.Resource
import SplunkOtel.Configuration.Schema
import SplunkOtel.Configuration.SubstituteGrammar
import SplunkOtel.Generator.GeneratedTypes
import SplunkOtel.Generator.ResolveType
import SplunkOtel.Generator.TopologicalSort
import SplunkOtel.Http.Authority
import SplunkOtel.Http.IncomingAttributes
import SplunkOtel.Http.NoThrow
import SplunkOtel.Http.OutgoingAttributes
import SplunkOtel.Http.Redaction
import SplunkOtel.Http.SpanLifetime
import SplunkOtel.Instrumentations.Selection
import SplunkOtel.Js.Access
import SplunkOtel.Js.Digits
import SplunkOtel.Js.Encoding
import SplunkOtel.Js.Integer
import SplunkOtel.Js.Number
import SplunkOtel.Js.PlainObject
import SplunkOtel.Js.UrlSearchParams
import SplunkOtel.Js.Utf16
import SplunkOtel.Js.Value
import SplunkOtel.Lib.BigEndian
import SplunkOtel.Lib.CString
import SplunkOtel.Lib.DepthFirst
import SplunkOtel.Lib.Distinct
import SplunkOtel.Lib.Effects
import SplunkOtel.Lib.Interning
import SplunkOtel.Lib.KeyedTree
import SplunkOtel.Lib.LinkedList
import SplunkOtel.Lib.MultiMap
import SplunkOtel.Lib.OrderedMap
import SplunkOtel.Lib.Pacing
import SplunkOtel.Lib.Probing
import SplunkOtel.Lib.PromiseChain
import SplunkOtel.Lib.Run
import SplunkOtel.Lib.Simulation
import SplunkOtel.Lib.Text
import SplunkOtel.Lib.Varint
import SplunkOtel.Lib.Wire
import SplunkOtel.Metrics.AttributesProcessor
import SplunkOtel.Metrics.RuntimeMetrics
import SplunkOtel.Metrics.RuntimeReports
import SplunkOtel.Native.ActivationStack
import SplunkOtel.Native.Activations
import SplunkOtel.Native.ArenaBlocks
import SplunkOtel.Native.ArenaPages
import SplunkOtel.Native.BinRange
import SplunkOtel.Native.HeapProfiling
import SplunkOtel.Native.HeapSamples
import SplunkOtel.Native.Hex
import SplunkOtel.Native.Khash
import SplunkOtel.Native.KhashMap
import SplunkOtel.Native.Pairing
import SplunkOtel.Native.PlainProfiler
import SplunkOtel.Native.Profiler
import SplunkOtel.Native.Registry
import SplunkOtel.Native.Rehash
import SplunkOtel.Native.Sessions
import SplunkOtel.Native.StackSlots
import SplunkOtel.Native.Throttle
import SplunkOtel.Native.TrackingTable
import SplunkOtel.OpAMP.Backoff
import SplunkOtel.OpAMP.Client
import SplunkOtel.OpAMP.EffectiveConfig
import SplunkOtel.OpAMP.EffectiveState
import SplunkOtel.OpAMP.OneAttempt
import SplunkOtel.OpAMP.RemoteConfig
import SplunkOtel.OpAMP.RetryAfter
import SplunkOtel.OpAMP.Uuid
import SplunkOtel.OpAMP.WakeUp
import SplunkOtel.Profiling.Controller
import SplunkOtel.Profiling.FixedPoint
import SplunkOtel.Profiling.Frames
import SplunkOtel.Profiling.HeapStacks
import SplunkOtel.Profiling.Interval
import SplunkOtel.Profiling.Mirror
import SplunkOtel.Profiling.Proto
import SplunkOtel.Profiling.RemoteApply
import SplunkOtel.Profiling.Serializer
import SplunkOtel.Profiling.StartProfiling
import SplunkOtel.Snapshots.Linger
import SplunkOtel.Snapshots.Profiler
import SplunkOtel.Snapshots.Propagation
import SplunkOtel.Snapshots.SamplingPeriod
import SplunkOtel.Snapshots.TraceFilter
import SplunkOtel.Start.AllOrNothing
import SplunkOtel.Start.Attempt
import SplunkOtel.Start.Launch
import SplunkOtel.Start.Process
import SplunkOtel.Start.Resolved
import SplunkOtel.Start.ServiceName
import SplunkOtel.Start.Stop
import SplunkOtel.Tracing.NextJsSpanProcessor
import SplunkOtel.Tracing.RuleBasedSampler
import SplunkOtel.Utils.Endpoint
