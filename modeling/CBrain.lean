import CBrain.Framework.Decimal
import CBrain.Framework.Effect
import CBrain.Framework.Json
import CBrain.Framework.JsonText
import CBrain.Framework.JsonRoundTrip
import CBrain.Framework.Base64
import CBrain.Framework.Sha256
import CBrain.Contracts
import CBrain.Runtime
import CBrain.Dispatch
import CBrain.Decision
import CBrain.AuthorizeClient
import CBrain.PlannerAgreement
import CBrain.Framework.Fallible
import CBrain.Framework.Pool
import CBrain.Claim
import CBrain.Sidecar
import CBrain.SidecarReplicas
import CBrain.Gateway
import CBrain.WirePath
import CBrain.Composition
import CBrain.Models.Contracts
import CBrain.Agent.Profile
import CBrain.Agent.Record
import CBrain.Agent.Durable
import CBrain.Agent.Foundation
import CBrain.Agent.Worker
import CBrain.Agent.Store
import CBrain.Agent.Workers
import CBrain.Agent.Budgets
import CBrain.Agent.Traces
import CBrain.Agent.Evidence
import CBrain.Agent.History
import CBrain.Agent.StoreAgreement
import CBrain.Framework.Table
import CBrain.Framework.Ranking
import CBrain.Framework.Walk
import CBrain.Framework.OneShot
import CBrain.Company.Approval
import CBrain.Company.DurableReview
import CBrain.Company.ReviewHistory
import CBrain.Knowledge.Contracts
import CBrain.Knowledge.Chunking
import CBrain.Knowledge.Graph
import CBrain.Knowledge.Memory
import CBrain.Knowledge.Retrieval
import CBrain.Knowledge.Ingestion
import CBrain.Knowledge.MemoryHistory
import CBrain.Knowledge.Noninterference
import CBrain.Knowledge.Postgres
import CBrain.Knowledge.CachePath
import CBrain.Knowledge.PostgresWrites
import CBrain.Knowledge.PostgresHistory
import CBrain.Knowledge.Revisions
import CBrain.Knowledge.TenantPublishing
import CBrain.Knowledge.PublishedChunks
import CBrain.Knowledge.GraphCitations
import CBrain.Knowledge.CacheKeys
import CBrain.Framework.Mutation
import CBrain.Framework.PyDecimal
import CBrain.Simulators.Contracts
import CBrain.Simulators.Effects
import CBrain.Simulators.Ledger
import CBrain.Simulators.Crm
import CBrain.Simulators.Orders
import CBrain.Simulators.Procurement
import CBrain.Simulators.Runs
import CBrain.Company.LegalMatters
import CBrain.Evaluation.ReleaseGates
import CBrain.Framework.Double
import CBrain.Company.ReviewExpiry
import CBrain.Simulators.LedgerHistory
import CBrain.Framework.PyDecimalArithmetic
import CBrain.Evaluation.CostComparison
import CBrain.Simulators.OrderHistory
import CBrain.Procurement.Reconcile
import CBrain.SidecarCodec
import CBrain.Agent.Insights
import CBrain.Framework.AppendLog
import CBrain.Framework.WalkSearch
import CBrain.Knowledge.BoundedWalk
import CBrain.Models.CredentialNames
import CBrain.Company.ReviewLeases
import CBrain.Knowledge.CompleteRuns
import CBrain.Knowledge.Replay
import CBrain.Framework.DecimalRounding
import CBrain.Procurement.Comparator
import CBrain.Procurement.ComparedValues
import CBrain.Procurement.ComparisonReceipts
import CBrain.Procurement.LandedCosts
import CBrain.Procurement.Ranks
import CBrain.Knowledge.FusedTerms
import CBrain.Knowledge.RetrievalLimits
import CBrain.Models.Adapters
import CBrain.Models.ResponseTotality
import CBrain.Models.WireHistory
import CBrain.Agent.Approvals
import CBrain.Agent.LearningStores
import CBrain.Agent.LearningHistory
import CBrain.Simulators.ShipmentHistory
import CBrain.Framework.Links
import CBrain.Simulators.MergeHistory
import CBrain.Company.Amounts
import CBrain.Company.Payments
import CBrain.Company.Rfq
import CBrain.Company.RfqHistory
import CBrain.Agent.InsightsEngine
import CBrain.Agent.InsightsHistory
import CBrain.Agent.Recorder
import CBrain.Agent.RecorderHistory
import CBrain.Agent.RecorderRuns
import CBrain.Simulators.Http
import CBrain.Simulators.Mail
import CBrain.Simulators.HttpHistory
import CBrain.Company.Awards
import CBrain.Procurement.Proof
import CBrain.Procurement.BoundProofs
import CBrain.Company.AwardHistory
import CBrain.Framework.CivilTime
import CBrain.Framework.Rfc3339
import CBrain.Procurement.AuthorizationExpiry
import CBrain.Framework.ClockFormat
import CBrain.Simulators.QuoteExpiry
import CBrain.Knowledge.ChunkWindows
import CBrain.Agent.EmbeddedJson
import CBrain.Evaluation.RouteCohorts
import CBrain.Knowledge.DiverseSelection
import CBrain.Agent.SavedRecords
import CBrain.Models.Instrumented
import CBrain.Evaluation.PricingCatalog
import CBrain.Evaluation.ExactCosts
import CBrain.Evaluation.CostOrder
import CBrain.ComputerUse.Sanitize
import CBrain.Framework.Tickets
import CBrain.Agent.Dispatches
import CBrain.Company.ApprovalGateway
import CBrain.Evaluation.Latencies
import CBrain.Company.ApprovalHistory
import CBrain.Framework.LossyCalls
import CBrain.ComputerUse.Surface
import CBrain.ComputerUse.Worker
import CBrain.ComputerUse.Session
import CBrain.ComputerUse.Bridge
import CBrain.Agent.Personalization
import CBrain.Agent.GuidanceEvidence
import CBrain.Agent.PersonalizationHistory
