import DBClaw.Ai.Shadow
import DBClaw.Library.Runs
import DBClaw.Library.Json
import DBClaw.Metrics.Integration
import DBClaw.Approvals.Orchestration
import DBClaw.Approvals.Identity
import DBClaw.Approvals.Resolution
import DBClaw.Approvals.Rounds
import DBClaw.Auth.Revocation
import DBClaw.Alerts.Aggregates
import DBClaw.Alerts.Baselines
import DBClaw.Alerts.Collector
import DBClaw.Alerts.Episodes
import DBClaw.Alerts.Escalation
import DBClaw.Alerts.OpenEvents
import DBClaw.Alerts.Recovery
import DBClaw.Bots.Deliveries
import DBClaw.Bots.WeixinQueue
import DBClaw.Chat.Reconnect
import DBClaw.Chat.Sequence
import DBClaw.Commands.ReadOnly
import DBClaw.Diagnosis.Refresh
import DBClaw.Diagnosis.Waits
import DBClaw.Notifications.Dispatcher
import DBClaw.Notifications.Cooldown
import DBClaw.Notifications.Recoveries
import DBClaw.Notifications.Retries
import DBClaw.Risk.Agreement
import DBClaw.Sql.ReadOnly
import DBClaw.Chat.ActiveStreams
import DBClaw.Queries.ActiveQueries
import DBClaw.Tasks.BackgroundTasks
import DBClaw.Tasks.ScheduledTasks
import DBClaw.Hosts.ConnectionPool
import DBClaw.Risk.PlatformState
import DBClaw.Chat.History
import DBClaw.Chat.Attachments
import DBClaw.Skills.Advertisement
import DBClaw.Skills.Registry
import DBClaw.Alerts.Subscriptions
import DBClaw.Config.Faithful
import DBClaw.Config.Seeding
import DBClaw.Integrations.Ownership
import DBClaw.Hosts.CurrentHosts
import DBClaw.Alerts.Durations
import DBClaw.Bots.TenantTokens
import DBClaw.Tasks.TaskSchedules
import DBClaw.Alerts.DefaultTemplates
import DBClaw.Tasks.InspectionTriggers
import DBClaw.Chat.SessionSwitching
import DBClaw.Pages.PublicPages
import DBClaw.Chat.View
import DBClaw.Chat.ViewInjections
import DBClaw.Hosts.ConnectionProbe
import DBClaw.Library.Noninterference
import DBClaw.Metrics.CounterRates
import DBClaw.Ai.Candidates
import DBClaw.Ai.DerivedRecoveries
import DBClaw.Ai.Escalations
import DBClaw.Alerts.StoredTemplates
import DBClaw.Chat.ToolResults
import DBClaw.Tasks.ScheduleConfigs
import DBClaw.Bots.FeishuChunks
import DBClaw.Chat.AnthropicMessages
import DBClaw.Library.OrderedQueries
import DBClaw.Metrics.HistoryBuckets
import DBClaw.Metrics.RangeQueries
import DBClaw.Library.Tallies
import DBClaw.Metrics.HistoryAggregation
import DBClaw.Alerts.Isolation
import DBClaw.Documents.Sections
import DBClaw.Documents.Translations
import DBClaw.Evaluation.Judge
import DBClaw.Hosts.ConnectionTables
import DBClaw.Library.Addresses
import DBClaw.Library.Uniques
import DBClaw.Metrics.HistoryExactness
import DBClaw.Metrics.TrafficAddresses
import DBClaw.Pages.Router
import DBClaw.Skills.ExecutionIds
import DBClaw.Sql.BindVariables
import DBClaw.Tasks.TriggerDeduplication
import DBClaw.Alerts.DashboardHealth
import DBClaw.Bots.FeishuCodeBlocks
import DBClaw.Chat.Sockets
import DBClaw.Chat.Streams
import DBClaw.Commands.HostGate
import DBClaw.Metrics.Subscriptions
import DBClaw.Metrics.TrafficConservation
import DBClaw.Metrics.TrafficPartition
import DBClaw.Queries.SchemaCache
import DBClaw.Documents.KnowledgePlans
