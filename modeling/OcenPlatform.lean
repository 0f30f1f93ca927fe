import OcenPlatform.Json
import OcenPlatform.Durable.Program
import OcenPlatform.Durable.Logic
import OcenPlatform.Durable.Pipeline
import OcenPlatform.Origination.Workflow
import OcenPlatform.Origination.Pipeline
import OcenPlatform.Origination.Trace
import OcenPlatform.Origination.OpsHold
import OcenPlatform.Gateway.Service
import OcenPlatform.Origination.LenderResponse
import OcenPlatform.Gateway.Callback
import OcenPlatform.Gateway.Routing
import OcenPlatform.Gateway.Refusal
import OcenPlatform.Encoding.Base64
import OcenPlatform.Ocen.Jws
import OcenPlatform.Gateway.Authenticity
import OcenPlatform.Common.Rbac
import OcenPlatform.Durable.Attempt
import OcenPlatform.Durable.Worker
import OcenPlatform.Rules.Engine
import OcenPlatform.Origination.Activities
import OcenPlatform.Origination.Decision
import OcenPlatform.Origination.Consent
import OcenPlatform.Audit.HashChain
import OcenPlatform.Audit.Receipts
import OcenPlatform.Audit.Chain
import OcenPlatform.Audit.Forgery
import OcenPlatform.Durable.Calls
import OcenPlatform.Durable.Retry
import OcenPlatform.Ocen.NetworkClient
import OcenPlatform.Origination.Submission
import OcenPlatform.Origination.RetrySafety
import OcenPlatform.Origination.Recipients
import OcenPlatform.Durable.Namespace
import OcenPlatform.Gateway.Starts
import OcenPlatform.Db.Table
import OcenPlatform.Db.Models
import OcenPlatform.Db.DataSource
import OcenPlatform.Db.Erasure
import OcenPlatform.Db.RetentionHandlers
import OcenPlatform.Db.Commits
import OcenPlatform.Durable.Lockstep
import OcenPlatform.Gateway.Status
import OcenPlatform.Gateway.DatabaseService
import OcenPlatform.Gateway.Backends
import OcenPlatform.Gateway.LegalHold
import OcenPlatform.Common.RateLimit
import OcenPlatform.Breach.Consumer
import OcenPlatform.Breach.Confirmation
import OcenPlatform.Breach.WorkflowIds
import OcenPlatform.Breach.Accounting
import OcenPlatform.Gateway.Idempotency
import OcenPlatform.Durable.Interleaving
import OcenPlatform.Gateway.ConcurrentInitiate
import OcenPlatform.Gateway.ConcurrentUpdate
import OcenPlatform.Db.Migrations
import OcenPlatform.Db.Rollback
import OcenPlatform.Db.Backfill
import OcenPlatform.Db.ConcurrentInserts
import OcenPlatform.Db.VendorBatch
import OcenPlatform.Gateway.Cutover
import OcenPlatform.Sql.Relation
import OcenPlatform.Sql.Value
import OcenPlatform.TrustGraph.Staging
import OcenPlatform.TrustGraph.Marts
import OcenPlatform.TrustGraph.FanOut
import OcenPlatform.TrustGraph.VendorProfiles
import OcenPlatform.TrustGraph.Service
import OcenPlatform.TrustGraph.Score
import OcenPlatform.TrustGraph.Isolation
import OcenPlatform.Rules.DecisionTable
import OcenPlatform.Rules.Rulesets
import OcenPlatform.Ddp.RiskFlags
import OcenPlatform.Origination.HitPolicies
import OcenPlatform.Vdp.Receivables
import OcenPlatform.Vdp.Kind1
import OcenPlatform.Loop
import OcenPlatform.Rules.Loading
import OcenPlatform.Rules.Provenance
import OcenPlatform.Rules.Reload
import OcenPlatform.Rules.Sufficiency
import OcenPlatform.Origination.SufficiencyGate
import OcenPlatform.Rules.DerivedFlags
import OcenPlatform.Rules.Prescreen
import OcenPlatform.Gateway.OpsView
import OcenPlatform.Gateway.Orphans
import OcenPlatform.Db.RetentionOrder
import OcenPlatform.Gateway.ActiveVendors
import OcenPlatform.Gateway.RetentionReach
import OcenPlatform.Durable.Offsets
import OcenPlatform.FrappeSync.Consumer
import OcenPlatform.FrappeSync.Delivery
import OcenPlatform.FrappeSync.WebhookClient
import OcenPlatform.TrustGraph.Repayments
import OcenPlatform.Vdp.CheckKind1
import OcenPlatform.Encoding.Pattern
import OcenPlatform.Vdp.Identifiers
import OcenPlatform.Encoding.BigEndian
import OcenPlatform.Encoding.JsonText
import OcenPlatform.Ocen.JsonDumps
import OcenPlatform.Ocen.PublicKey
import OcenPlatform.Ocen.Detached
import OcenPlatform.Durable.Run
import OcenPlatform.Ocen.FanOut
import OcenPlatform.Breach.SlidingWindow
import OcenPlatform.Ocen.TokenService
import OcenPlatform.TrustGraph.PairScore
import OcenPlatform.Encoding.TextFile
import OcenPlatform.Rules.FileHash
import OcenPlatform.Origination.ReceiptIdentity
import OcenPlatform.Db.BackfillRun
import OcenPlatform.Audit.Canonical
import OcenPlatform.Events.Forwarding
import OcenPlatform.Breach.Workflow
import OcenPlatform.Db.ReadCommitted
import OcenPlatform.Durable.Once
import OcenPlatform.Durable.Retried
import OcenPlatform.Gateway.RetentionWorkflow
import OcenPlatform.Origination.Deadlines
import OcenPlatform.Origination.Singletons
import OcenPlatform.Rights.Fulfillment
import OcenPlatform.Rights.Requests
import OcenPlatform.Durable.Hosting
import OcenPlatform.Durable.HostNamespace
import OcenPlatform.Gateway.Platform
import OcenPlatform.Gateway.Access
