import TokenBank.App.WorkerRoutes
import TokenBank.Audit.Evolution
import TokenBank.Audit.Fields
import TokenBank.Audit.Giving
import TokenBank.Audit.Receipts
import TokenBank.Audit.System
import TokenBank.Backends.Adapter
import TokenBank.Backends.Resolver
import TokenBank.Backends.Scaffolds
import TokenBank.Core.Rereading
import TokenBank.Guarantees.Acceptance
import TokenBank.Guarantees.Adapters
import TokenBank.Guarantees.Approvals
import TokenBank.Guarantees.Attempts
import TokenBank.Guarantees.Authority
import TokenBank.Guarantees.CapacityTable
import TokenBank.Guarantees.ConfigOrder
import TokenBank.Guarantees.Credentials
import TokenBank.Guarantees.Dedup
import TokenBank.Guarantees.Dominance
import TokenBank.Guarantees.Estimates
import TokenBank.Guarantees.EventLog
import TokenBank.Guarantees.HostInput
import TokenBank.Guarantees.HostResults
import TokenBank.Guarantees.Ingress
import TokenBank.Guarantees.Interruption
import TokenBank.Guarantees.Lateness
import TokenBank.Guarantees.LedgerEntries
import TokenBank.Guarantees.Losses
import TokenBank.Guarantees.Orphans
import TokenBank.Guarantees.Preflight
import TokenBank.Guarantees.Receipts
import TokenBank.Guarantees.Redactions
import TokenBank.Guarantees.Registrations
import TokenBank.Guarantees.RepeatedReceipts
import TokenBank.Guarantees.ReportRows
import TokenBank.Guarantees.Reports
import TokenBank.Guarantees.Results
import TokenBank.Guarantees.Scanning
import TokenBank.Guarantees.Selection
import TokenBank.Guarantees.Sequences
import TokenBank.Guarantees.SharedConnection
import TokenBank.Guarantees.Spooling
import TokenBank.Guarantees.Startup
import TokenBank.Guarantees.StoredHashes
import TokenBank.Guarantees.Sweeping
import TokenBank.Guarantees.TerminalStates
import TokenBank.Guarantees.Timestamps
import TokenBank.Guarantees.Totals
import TokenBank.Guarantees.WorkerExecutions
import TokenBank.Guarantees.WorkerRounds
import TokenBank.Host.Submission
import TokenBank.Ledger.Accounts
import TokenBank.Ledger.Fields
import TokenBank.Ledger.Usage
import TokenBank.Models.Base
import TokenBank.Models.CapacityNode
import TokenBank.Models.CapacityRereading
import TokenBank.Models.Documents
import TokenBank.Models.Revalidation
import TokenBank.Models.RoutePlan
import TokenBank.Order.Links
import TokenBank.Policy.Checks
import TokenBank.Router.Profiles
import TokenBank.Router.RouteScorer
import TokenBank.Router.Service
import TokenBank.Router.TaskAnalyzer
import TokenBank.Store.Abiding
import TokenBank.Text.Patterns
import TokenBank.Worker.Daemon
import TokenBank.Worker.Logs
