import GaiaOS.Lib.Python
import GaiaOS.Lib.Extrema
import GaiaOS.Lib.Dict
import GaiaOS.Lib.Machine
import GaiaOS.Lib.SharedCell
import GaiaOS.Lib.PyObj
import GaiaOS.Schemas.Uncertainty
import GaiaOS.Schemas.AgentIo
import GaiaOS.Schemas.Events
import GaiaOS.Synthesis.UncertaintyPropagation
import GaiaOS.Synthesis.CitationMapper
import GaiaOS.Synthesis.Agent
import GaiaOS.Cache.Client
import GaiaOS.Critic.Replan
import GaiaOS.Graph.State
import GaiaOS.Graph.Builder
import GaiaOS.Graph.FanOutCoordinator
import GaiaOS.Graph.Checkpointer
import GaiaOS.Resilience.CircuitBreaker
import GaiaOS.Resilience.DegradedMode
import GaiaOS.Resilience.CallHistory
import GaiaOS.Tools.SeismicUsgs
import GaiaOS.Proofs.UncertaintyPropagation
import GaiaOS.Proofs.Synthesis
import GaiaOS.Proofs.Events
import GaiaOS.Proofs.NodeUpdates
import GaiaOS.Proofs.GraphInvariant
import GaiaOS.Proofs.ReplanLoop
import GaiaOS.Proofs.ExecutionTrace
import GaiaOS.Proofs.FanOutStages
import GaiaOS.Proofs.FanOut
import GaiaOS.Proofs.FanOutEvidence
import GaiaOS.Proofs.Checkpointer
import GaiaOS.Proofs.CircuitBreaker
import GaiaOS.Proofs.ResilientCall
import GaiaOS.Proofs.SingleProbe
import GaiaOS.Gateway.RateLimiter
import GaiaOS.Lib.TokenBucket
import GaiaOS.Proofs.BreakerSpec
import GaiaOS.Proofs.RateLimiter
import GaiaOS.Db.Investigations
import GaiaOS.Workers.InvestigationJob
import GaiaOS.Proofs.RetryIsolation
import GaiaOS.Proofs.JobLifecycle
import GaiaOS.App.Investigations
import GaiaOS.Proofs.CompleteStatus
import GaiaOS.Proofs.Confidentiality
import GaiaOS.Alerting.Rules
import GaiaOS.Db.Alerts
import GaiaOS.Alerting.Evaluator
import GaiaOS.Workers.AlertEvaluationJob
import GaiaOS.Workers.AlertJobs
import GaiaOS.Lib.Alarm
import GaiaOS.Lib.StableSort
import GaiaOS.Lib.Percentile
import GaiaOS.Lib.RecursiveQuery
import GaiaOS.Lib.Text
import GaiaOS.Db.HazardEvents
import GaiaOS.Db.CausalRepository
import GaiaOS.Metrics.Collector
import GaiaOS.Alerting.MetricQueries
import GaiaOS.Proofs.AlertAlarm
import GaiaOS.Proofs.AlertNotifications
import GaiaOS.Proofs.AlertResolution
import GaiaOS.Proofs.AlertWork
import GaiaOS.Proofs.StaleIncidents
import GaiaOS.Proofs.OneOpenIncident
import GaiaOS.Proofs.RuleEvaluation
import GaiaOS.Proofs.JobMetrics
import GaiaOS.Proofs.CausalPaths
import GaiaOS.Proofs.CausalTrigger
import GaiaOS.Proofs.CallOutcome
import GaiaOS.Proofs.DegradedContract
import GaiaOS.Proofs.LostOutcome
import GaiaOS.Proofs.EarthquakeCache
import GaiaOS.Ingestion.HazardEventSources
import GaiaOS.Workers.IngestionJob
import GaiaOS.Proofs.IngestionCursor
import GaiaOS.Proofs.IngestionLoss
import GaiaOS.Proofs.CallAlone
import GaiaOS.Ops.Backup.Provider
import GaiaOS.Ops.Backup.RestoreDrill
import GaiaOS.Ops.Backup.PostgresBackup
import GaiaOS.Proofs.RestoreDrill
import GaiaOS.Proofs.BackupConsistency
import GaiaOS.Ops.Backup.MinioStorage
import GaiaOS.Proofs.MinioTruth
import GaiaOS.App.Anonymization
import GaiaOS.Lib.JsonTree
import GaiaOS.Proofs.Anonymization
import GaiaOS.Db.ResearchInvestigations
import GaiaOS.Explainability.TraceTransformer
import GaiaOS.Proofs.DomainReaders
import GaiaOS.Lib.Surd
import GaiaOS.SimulationEngine.ParameterLoader
import GaiaOS.SimulationEngine.Calibration
import GaiaOS.Proofs.PromotionGate
import GaiaOS.Auth.PasswordReset
import GaiaOS.Proofs.PasswordReset
import GaiaOS.Scripts.VerifyApiStability
import GaiaOS.Lib.Relations
import GaiaOS.Proofs.SchemaResolution
import GaiaOS.Proofs.ApiStability
import GaiaOS.Proofs.BreakingChanges
import GaiaOS.Proofs.AdditiveChanges
import GaiaOS.Lib.PoolIndex
import GaiaOS.Proofs.CitationLookup
import GaiaOS.Proofs.SynthesisAnswers
import GaiaOS.Lib.Overwrite
import GaiaOS.Proofs.ReportedBounds
import GaiaOS.Proofs.EvidenceGaps
import GaiaOS.Agents.Registry
import GaiaOS.Proofs.ReplanTargets
import GaiaOS.Proofs.TraceGraph
import GaiaOS.Lib.Versions
import GaiaOS.Db.PatternFindings
import GaiaOS.Workers.PatternMiningJob
import GaiaOS.Proofs.PatternVersions
import GaiaOS.App.InvestigationsStream
import GaiaOS.Proofs.StreamHearing
import GaiaOS.Proofs.StreamEnd
import GaiaOS.Lib.Double
import GaiaOS.Gateway.NumericLimiter
import GaiaOS.Proofs.NumericLimiter
import GaiaOS.Lib.WilsonInterval
import GaiaOS.Proofs.MiningCompletes
import GaiaOS.Proofs.MiningRates
import GaiaOS.Proofs.PatternHashes
import GaiaOS.Proofs.BurnRate
import GaiaOS.Lib.SustainedRun
import GaiaOS.Workers.ScalingPolicy
import GaiaOS.Proofs.SustainedBreach
import GaiaOS.Proofs.TraceRobustness
import GaiaOS.Proofs.TraceFlags
import GaiaOS.Lib.Regex
import GaiaOS.Lib.PyRegex
import GaiaOS.Lib.DecimalText
import GaiaOS.Lib.FloatRepr
import GaiaOS.SimulationEngine.Models
import GaiaOS.Agents.Simulation
import GaiaOS.Agents.Atmosphere
import GaiaOS.Proofs.SimulationReturns
import GaiaOS.Proofs.ReadingsSurvive
import GaiaOS.Lib.Binning
import GaiaOS.Eval.Calibration
import GaiaOS.Eval.Runner
import GaiaOS.Eval.CiGate
import GaiaOS.Proofs.CalibrationError
import GaiaOS.Proofs.RegressionGate
import GaiaOS.Proofs.BaselineRun
import GaiaOS.Lib.RankFusion
import GaiaOS.Db.Literature
import GaiaOS.Proofs.HybridSearch
import GaiaOS.Lib.Windows
import GaiaOS.Workers.LiteratureIngestionJob
import GaiaOS.Proofs.ChunkText
import GaiaOS.Proofs.PaperIngestion
import GaiaOS.Lib.Rounding
import GaiaOS.Lib.LeastSquares
import GaiaOS.SimulationEngine.Fitting
import GaiaOS.Proofs.FittedBounds
import GaiaOS.Proofs.FittedOptimal
import GaiaOS.Ops.Backup.Retention
import GaiaOS.Proofs.BackupRetention
import GaiaOS.Workers.DatasetExportJob
import GaiaOS.Proofs.DatasetExport
import GaiaOS.Lib.Generator
import GaiaOS.Db.Session
import GaiaOS.Proofs.ReadReplica
import GaiaOS.Lib.JsonPath
import GaiaOS.Proofs.SanitizedTrace
import GaiaOS.Lib.WilsonRoots
import GaiaOS.Proofs.WilsonBound
import GaiaOS.Auth.Accounts
import GaiaOS.Proofs.Accounts
import GaiaOS.Proofs.AccountLifecycle
import GaiaOS.Proofs.ApiKeys
import GaiaOS.Workers.Scheduler
import GaiaOS.Proofs.RecurringJobs
import GaiaOS.Lib.EventStream
import GaiaOS.Sdk.Streaming
import GaiaOS.Proofs.StreamWire
import GaiaOS.Agents.PluginLoader
import GaiaOS.Proofs.PluginBoot
import GaiaOS.Workers.CalibrationJob
import GaiaOS.Proofs.CalibrationStarvation
import GaiaOS.Lib.WordRegex
import GaiaOS.Agents.Classifier
import GaiaOS.Proofs.QueryRouting
import GaiaOS.Lib.RecordCodec
import GaiaOS.Proofs.SdkCalls
