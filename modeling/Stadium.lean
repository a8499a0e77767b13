import Stadium.CongestionForecaster.Forecast
import Stadium.Lib.ExpiringMap
import Stadium.Lib.Interleaving
import Stadium.Lib.Buckets
import Stadium.SignalIngestion.PriorityQueue
import Stadium.CongestionForecaster.Fallback
import Stadium.CongestionForecaster.RiskComparison
import Stadium.RecommendationEngine.Recommendations
import Stadium.SignalIngestion.Timing
import Stadium.FanNotificationSystem.Nudges
import Stadium.Infra.RedisClient
import Stadium.OpsDashboard.Alerts
import Stadium.ShuttleRedirectionAdvisor.Redirections
import Stadium.Pipeline.Machine
import Stadium.Pipeline.Intake
import Stadium.Infra.Topology
import Stadium.Pipeline.WindowHistory
import Stadium.Lib.StageLine
import Stadium.Pipeline.Recompute
import Stadium.Pipeline.NewestForecast
import Stadium.Pipeline.PriorScore
import Stadium.Pipeline.Expiry
import Stadium.Pipeline.Redelivery
import Stadium.Lib.GrantLedger
import Stadium.Pipeline.Cooldown
import Stadium.Pipeline.AlertTransitions
import Stadium.Pipeline.ActiveActions
import Stadium.ShuttleRedirectionAdvisor.Coverage
import Stadium.Lib.Trace
import Stadium.Pipeline.ScoreAudit
import Stadium.Pipeline.StaleEvents
import Stadium.Lib.Composition
import Stadium.ShuttleRedirectionAdvisor.Api
import Stadium.ShuttleRedirectionAdvisor.Decisions
import Stadium.FanNotificationSystem.Delivery
import Stadium.FanNotificationSystem.Settlement
import Stadium.Pipeline.NudgeAudit
import Stadium.Pipeline.Suppression
import Stadium.OpsDashboard.DataQuality
import Stadium.Pipeline.DecisionTrail
import Stadium.Lib.Rejection
import Stadium.Pipeline.Containment
import Stadium.CongestionForecaster.Monotonicity
import Stadium.SignalIngestion.QueueDiscipline
import Stadium.CongestionForecaster.Scheduler
import Stadium.Lib.KeyedStore
import Stadium.Infra.RedisWrappers
import Stadium.Infra.Auth
import Stadium.Lib.Json
import Stadium.Lib.Zod
import Stadium.SignalIngestion.Schema
import Stadium.SignalIngestion.Parser
import Stadium.SignalIngestion.Service
import Stadium.OpsDashboard.Snapshot
import Stadium.Pipeline.DataQualityIndicator
import Stadium.SignalIngestion.SourceTimers
import Stadium.Lib.Families
import Stadium.Lib.Isolation
import Stadium.Pipeline.GateIsolation
import Stadium.Lib.Highest
import Stadium.SignalIngestion.Shedding
import Stadium.CongestionForecaster.LoadOrder
import Stadium.RecommendationEngine.ImpactRanking
import Stadium.FanNotificationSystem.Alternatives
import Stadium.ShuttleRedirectionAdvisor.Permitted
import Stadium.Lib.ObjectLiteral
import Stadium.RecommendationEngine.LowConfidence
import Stadium.SignalIngestion.Codec
import Stadium.SignalIngestion.ClientTiming
import Stadium.Pipeline.IngestionAudit
import Stadium.Lib.FanOut
import Stadium.Pipeline.DashboardStream
import Stadium.CongestionForecaster.AlternativeOrder
import Stadium.Lib.IsoText
import Stadium.Lib.ZodPath
import Stadium.Pipeline.NudgeBatch
import Stadium.Pipeline.QuotedPayload
import Stadium.SignalIngestion.Culprit
import Stadium.Lib.RecordStore
import Stadium.Pipeline.ActionRecords
import Stadium.Pipeline.NudgeRecords
import Stadium.Pipeline.RecordIds
import Stadium.AuditLogService.Queries
import Stadium.Lib.Draining
import Stadium.Pipeline.Draining
import Stadium.Lib.Serial
import Stadium.Pipeline.StraightLine
import Stadium.Pipeline.SerialRuns
import Stadium.Lib.Provenance
import Stadium.Pipeline.Provenance
import Stadium.Lib.Trim
import Stadium.Infra.RequestKey
import Stadium.Pipeline.Flow
import Stadium.Lib.Parts
import Stadium.OpsDashboard.Acknowledgement
import Stadium.Server.Process
import Stadium.Server.Gateway
import Stadium.Lib.Balance
import Stadium.Server.Ledger
import Stadium.Server.Rules
import Stadium.Server.Reads
import Stadium.Pipeline.Times
import Stadium.Server.History
import Stadium.Lib.Streaming
import Stadium.Pipeline.OnRecord
import Stadium.Server.Stream
import Stadium.Server.Feed
import Stadium.Lib.ByteCut
import Stadium.Infra.KeyTable
import Stadium.Infra.KeyCollisions
import Stadium.RecommendationEngine.ActionIds
import Stadium.Server.ReadRoutes
import Stadium.Lib.Omission
import Stadium.Server.Spectators
