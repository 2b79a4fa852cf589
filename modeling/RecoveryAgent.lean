import RecoveryAgent.Core.Atomicity
import RecoveryAgent.Core.Builtins
import RecoveryAgent.Core.Calendar
import RecoveryAgent.Core.CommitBackend
import RecoveryAgent.Core.Config
import RecoveryAgent.Core.Distress
import RecoveryAgent.Core.Eligibility
import RecoveryAgent.Core.FalseAlarms
import RecoveryAgent.Core.LegalSlots
import RecoveryAgent.Core.Lifecycle
import RecoveryAgent.Core.Loader
import RecoveryAgent.Core.Lookups
import RecoveryAgent.Core.Models
import RecoveryAgent.Core.Npcirules
import RecoveryAgent.Core.Payloads
import RecoveryAgent.Core.Replay
import RecoveryAgent.Core.RetryCap
import RecoveryAgent.Core.SalaryWindow
import RecoveryAgent.Core.Scheduling
import RecoveryAgent.Core.SlotBandit
import RecoveryAgent.Core.StateMachine
import RecoveryAgent.Core.Survival
import RecoveryAgent.Core.Throttling
import RecoveryAgent.Core.Time
import RecoveryAgent.Core.TimeText
import RecoveryAgent.Core.TwoClocks
import RecoveryAgent.Core.Verdicts
import RecoveryAgent.Core.Verifier
import RecoveryAgent.Lib.Attempt
import RecoveryAgent.Lib.Behaviour
import RecoveryAgent.Lib.Binary64
import RecoveryAgent.Lib.Delimited
import RecoveryAgent.Lib.EdgePath
import RecoveryAgent.Lib.Ends
import RecoveryAgent.Lib.FirstMax
import RecoveryAgent.Lib.HashChain
import RecoveryAgent.Lib.Knowledge
import RecoveryAgent.Lib.Pool
import RecoveryAgent.Lib.Program
import RecoveryAgent.Lib.Rows
import RecoveryAgent.Lib.Run
import RecoveryAgent.Lib.Sha256
import RecoveryAgent.Lib.SlidingWindow
import RecoveryAgent.Lib.Table
import RecoveryAgent.Lib.Unicode
import RecoveryAgent.Lib.WhileLoop
import RecoveryAgent.Service.Accounts
import RecoveryAgent.Service.AgentRecovered
import RecoveryAgent.Service.Appends
import RecoveryAgent.Service.AttemptDecisions
import RecoveryAgent.Service.Blackout
import RecoveryAgent.Service.Budget
import RecoveryAgent.Service.CaseMoves
import RecoveryAgent.Service.CaseStep
import RecoveryAgent.Service.Citing
import RecoveryAgent.Service.CommitKeys
import RecoveryAgent.Service.CommittedRetries
import RecoveryAgent.Service.ComplianceCheck
import RecoveryAgent.Service.ControlWindow
import RecoveryAgent.Service.CrashRecovery
import RecoveryAgent.Service.Crashes
import RecoveryAgent.Service.Dashboard
import RecoveryAgent.Service.Deliveries
import RecoveryAgent.Service.Derivations
import RecoveryAgent.Service.ExactlyOnce
import RecoveryAgent.Service.Exchanges
import RecoveryAgent.Service.Execution
import RecoveryAgent.Service.ExecutionPaths
import RecoveryAgent.Service.FailureNumbers
import RecoveryAgent.Service.Filing
import RecoveryAgent.Service.Findings
import RecoveryAgent.Service.Fleet
import RecoveryAgent.Service.Handlers
import RecoveryAgent.Service.Histories
import RecoveryAgent.Service.Ingestion
import RecoveryAgent.Service.Interference
import RecoveryAgent.Service.Issuing
import RecoveryAgent.Service.NextRetry
import RecoveryAgent.Service.Operations
import RecoveryAgent.Service.Pacing
import RecoveryAgent.Service.PaidCases
import RecoveryAgent.Service.Population
import RecoveryAgent.Service.Reconciliation
import RecoveryAgent.Service.Records
import RecoveryAgent.Service.Redelivery
import RecoveryAgent.Service.Requests
import RecoveryAgent.Service.Runs
import RecoveryAgent.Service.Serving
import RecoveryAgent.Service.Trails
import RecoveryAgent.Service.Views
import RecoveryAgent.Service.Warrants
import RecoveryAgent.Service.Winners
import RecoveryAgent.Service.Workers
import RecoveryAgent.Store.AuditChain
import RecoveryAgent.Store.AuditText
import RecoveryAgent.Store.CaseStore
import RecoveryAgent.Store.ChainExport
import RecoveryAgent.Store.Columns
import RecoveryAgent.Store.Connection
import RecoveryAgent.Store.Documents
import RecoveryAgent.Store.Explainer
import RecoveryAgent.Store.FailureIndex
import RecoveryAgent.Store.Filing
import RecoveryAgent.Store.InMemoryCaseStore
import RecoveryAgent.Store.Interchange
import RecoveryAgent.Store.Ledger
import RecoveryAgent.Store.MandateIndex
import RecoveryAgent.Store.PostgresCaseStore
import RecoveryAgent.Store.RoundTrip
import RecoveryAgent.Store.RowCodec
import RecoveryAgent.Store.RowStore
