import SkyWalking.Lib.Store
import SkyWalking.Lib.Run
import SkyWalking.Lib.Base64
import SkyWalking.Lib.Bytes
import SkyWalking.Lib.Text
import SkyWalking.Lib.Json
import SkyWalking.Lib.Queue
import SkyWalking.Lib.Distinct
import SkyWalking.Lib.Slot
import SkyWalking.Lib.Window
import SkyWalking.Lib.Budget
import SkyWalking.Lib.Search
import SkyWalking.Lib.Regex
import SkyWalking.Lib.RegexSyntax
import SkyWalking.Lib.RegexSpelling
import SkyWalking.Trace.Basic
import SkyWalking.Trace.Carrier
import SkyWalking.Trace.World
import SkyWalking.Trace.Context
import SkyWalking.Trace.Block
import SkyWalking.Trace.Tasks
import SkyWalking.Trace.Api
import SkyWalking.Trace.Wellformed
import SkyWalking.Trace.Ledger
import SkyWalking.Proof.LedgerLemmas
import SkyWalking.Proof.LedgerRefinement
import SkyWalking.Proof.Nested
import SkyWalking.Proof.BlockOpening
import SkyWalking.Proof.BlockRun
import SkyWalking.Proof.TaskLemmas
import SkyWalking.Proof.ApiLemmas
import SkyWalking.Proof.WellformedLemmas
import SkyWalking.Trace.Propagation
import SkyWalking.Proof.CarrierLemmas
import SkyWalking.Proof.Extraction
import SkyWalking.Proof.FinishedParent
import SkyWalking.Proof.Chain
import SkyWalking.Proof.ContextFrame
import SkyWalking.Proof.Threads
import SkyWalking.Proof.Setters
import SkyWalking.Report.Encode
import SkyWalking.Proof.EncodeLemmas
import SkyWalking.Report.Async
import SkyWalking.Proof.AsyncLemmas
import SkyWalking.Report.Sync
import SkyWalking.Proof.SyncLemmas
import SkyWalking.Command.Dispatch
import SkyWalking.Proof.DispatchLemmas
import SkyWalking.Profile.Service
import SkyWalking.Proof.ProfileServiceLemmas
import SkyWalking.Proof.TaskWindow
import SkyWalking.Command.Execution
import SkyWalking.Proof.ExecutionLemmas
import SkyWalking.Profile.Slots
import SkyWalking.Proof.SlotsLemmas
import SkyWalking.Profile.Sampler
import SkyWalking.Proof.SamplerLemmas
import SkyWalking.Proof.SamplerSteps
import SkyWalking.Proof.PublicationLemmas
import SkyWalking.Proof.Publication
import SkyWalking.Profile.Counting
import SkyWalking.Proof.CountingLemmas
import SkyWalking.Report.Accounting
import SkyWalking.Proof.AccountingLemmas
import SkyWalking.Trace.Sampling
import SkyWalking.Proof.SamplingLemmas
import SkyWalking.Report.Heartbeat
import SkyWalking.Proof.HeartbeatLemmas
import SkyWalking.Agent.Async
import SkyWalking.Proof.AgentAsyncLemmas
import SkyWalking.Agent.Lifecycle
import SkyWalking.Proof.LifecycleLemmas
import SkyWalking.Proof.LineageLemmas
import SkyWalking.Proof.HealthLemmas
import SkyWalking.Proof.Codec
import SkyWalking.Trace.Kafka
import SkyWalking.Proof.KafkaLemmas
import SkyWalking.Trace.Batch
import SkyWalking.Proof.BatchLemmas
import SkyWalking.Proof.SuppressedLemmas
import SkyWalking.Trace.Limits
import SkyWalking.Proof.LimitsLemmas
import SkyWalking.Trace.LogTimes
import SkyWalking.Proof.LogTimesLemmas
import SkyWalking.Proof.CadenceLemmas
import SkyWalking.Agent.Supervisor
import SkyWalking.Proof.SupervisorLemmas
import SkyWalking.Tls.TempFiles
import SkyWalking.Proof.TempFilesLemmas
import SkyWalking.Tls.Material
import SkyWalking.Tls.Transport
import SkyWalking.Tls.Degrade
import SkyWalking.Proof.MaterialLemmas
import SkyWalking.Proof.ForceTls
import SkyWalking.Proof.SchemeLemmas
import SkyWalking.Proof.CustomCa
import SkyWalking.Meter.Histogram
import SkyWalking.Proof.HistogramLemmas
import SkyWalking.Meter.Meter
import SkyWalking.Meter.Service
import SkyWalking.Proof.MeterLemmas
import SkyWalking.Trace.Ignore
import SkyWalking.Lib.IpAddress
import SkyWalking.Channel.Address
import SkyWalking.Proof.AddressLemmas
import SkyWalking.Channel.Target
import SkyWalking.Proof.TargetLemmas
import SkyWalking.Lib.Puller
import SkyWalking.Report.BatchWindow
import SkyWalking.Proof.BatchWindowLemmas
import SkyWalking.Bootstrap.Runner
import SkyWalking.Proof.RunnerLemmas
import SkyWalking.Proof.IgnoreLemmas
import SkyWalking.Proof.SuffixLemmas
import SkyWalking.Proof.MethodLemmas
import SkyWalking.Profile.StackDump
import SkyWalking.Proof.StackDumpLemmas
import SkyWalking.Plugins.SqlParameters
import SkyWalking.Proof.SqlParametersLemmas
import SkyWalking.Lib.Armor
import SkyWalking.Lib.Der
import SkyWalking.Tls.CaBlocks
import SkyWalking.Tls.PrivateKey
import SkyWalking.Proof.PrivateKeyLemmas
import SkyWalking.Proof.CaBlocksLemmas
import SkyWalking.Utils.Filter
import SkyWalking.Utils.ReporterLog
import SkyWalking.Lib.Case
import SkyWalking.Lib.UrlParse
import SkyWalking.Utils.SafeUrl
import SkyWalking.Proof.SafeUrlLemmas
import SkyWalking.Proof.ReporterLogLemmas
import SkyWalking.Proof.FilterLemmas
import SkyWalking.Proof.MessageLemmas
import SkyWalking.Lib.Descent
import SkyWalking.Trace.Tree
import SkyWalking.Proof.TreeLemmas
import SkyWalking.Trace.Fleet
import SkyWalking.Proof.WrittenLemmas
import SkyWalking.Proof.FleetLemmas
import SkyWalking.Proof.CausalityLemmas
import SkyWalking.Log.Reporter
import SkyWalking.Proof.LogReporterLemmas
import SkyWalking.Lib.Throttle
import SkyWalking.Agent.Backoff
import SkyWalking.Proof.BackoffLemmas
import SkyWalking.Meter.Totals
import SkyWalking.Proof.TotalsLemmas
import SkyWalking.Log.Endpoint
import SkyWalking.Proof.EndpointLemmas
import SkyWalking.Proof.InstanceNameLemmas
import SkyWalking.Proof.WindingLemmas
import SkyWalking.Proof.TempAnswerLemmas
