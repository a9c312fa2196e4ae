import ProviderPlatform.Async.Task
import ProviderPlatform.Async.Pool
import ProviderPlatform.Async.Ownership
import ProviderPlatform.Async.Eval
import ProviderPlatform.Store.Table
import ProviderPlatform.Store.Batches
import ProviderPlatform.Bundle.Types
import ProviderPlatform.Bundle.Service
import ProviderPlatform.Mempool.Slot
import ProviderPlatform.Persistence.Entities
import ProviderPlatform.Persistence.Repository
import ProviderPlatform.Runtime.Host
import ProviderPlatform.Events.Emit
import ProviderPlatform.Encoding.Json
import ProviderPlatform.Events.Notify
import ProviderPlatform.Mempool.Process
import ProviderPlatform.Bundle.AddBundle
import ProviderPlatform.Executor.Service
import ProviderPlatform.Executor.Process
import ProviderPlatform.Verifier.Process
import ProviderPlatform.Provider
import ProviderPlatform.Footprint
import ProviderPlatform.Frame
import ProviderPlatform.Lifecycle.Terminal
import ProviderPlatform.Bundle.Checks
import ProviderPlatform.Mempool.Cascade
import ProviderPlatform.Mempool.Capacity
import ProviderPlatform.Mempool.Homogeneous
import ProviderPlatform.Executor.Conservation
import ProviderPlatform.Bundle.Resubmission
import ProviderPlatform.Bundle.Atomicity
import ProviderPlatform.Bundle.Ledger
import ProviderPlatform.Mempool.Contents
import ProviderPlatform.Lifecycle.Handover
import ProviderPlatform.Lifecycle.Outstanding
import ProviderPlatform.Lifecycle.Custody
import ProviderPlatform.Lifecycle.DoubleSubmission
import ProviderPlatform.Async.Trace
import ProviderPlatform.Async.Flags
import ProviderPlatform.Async.Embed
import ProviderPlatform.Async.Log
import ProviderPlatform.Async.Observer
import ProviderPlatform.Async.Solo
import ProviderPlatform.Auth.Challenges
import ProviderPlatform.Auth.SingleUse
import ProviderPlatform.Runtime.Text
import ProviderPlatform.Entities.PostEntity
import ProviderPlatform.Auth.StellarChallenge
import ProviderPlatform.Auth.StellarAuth
import ProviderPlatform.Auth.StellarSessions
import ProviderPlatform.Dashboard.TxDetail
import ProviderPlatform.Entities.Approvals
import ProviderPlatform.EventWatcher.Types
import ProviderPlatform.EventWatcher.Registry
import ProviderPlatform.EventWatcher.Configured
import ProviderPlatform.EventWatcher.Host
import ProviderPlatform.EventWatcher.Service
import ProviderPlatform.EventWatcher.Process
import ProviderPlatform.EventWatcher.Handlers
import ProviderPlatform.EventWatcher.Cursors
import ProviderPlatform.EventWatcher.Fetching
import ProviderPlatform.EventWatcher.Paging
import ProviderPlatform.EventWatcher.Coverage
import ProviderPlatform.EventWatcher.Delivery
import ProviderPlatform.EventWatcher.Parsing
import ProviderPlatform.EventWatcher.Memberships
import ProviderPlatform.Store.Latest
import ProviderPlatform.EventWatcher.NewestWins
import ProviderPlatform.Executor.ChannelResolver
import ProviderPlatform.Executor.ChannelClients
import ProviderPlatform.Lifecycle.Holding
import ProviderPlatform.Lifecycle.RetryCount
import ProviderPlatform.Lifecycle.Attempts
import ProviderPlatform.Lifecycle.RetryBound
import ProviderPlatform.Mempool.Bookkeeping
import ProviderPlatform.Mempool.Priority
import ProviderPlatform.Mempool.Admission
import ProviderPlatform.Mempool.Expiry
import ProviderPlatform.Mempool.Purge
import ProviderPlatform.Mempool.StartupExpiry
import ProviderPlatform.Executor.TtlGate
import ProviderPlatform.Store.RowLocks
import ProviderPlatform.Pay.Types
import ProviderPlatform.Pay.Custodial
import ProviderPlatform.Pay.Ledger
import ProviderPlatform.Pay.Sessions
import ProviderPlatform.Pay.Concurrency
import ProviderPlatform.Pay.Conservation
import ProviderPlatform.Verifier.Overlap
import ProviderPlatform.Verifier.Settlement
import ProviderPlatform.Verifier.Soundness
import ProviderPlatform.EventWatcher.Councils
import ProviderPlatform.Dashboard.InternalUrl
import ProviderPlatform.EventWatcher.WatchSet
import ProviderPlatform.Executor.Failure
import ProviderPlatform.Dashboard.Bundles
import ProviderPlatform.Dashboard.Amounts
import ProviderPlatform.Mempool.Score
import ProviderPlatform.Lifecycle.FailureDetail
import ProviderPlatform.Bundle.Accepted
import ProviderPlatform.EventWatcher.SharedCouncil
import ProviderPlatform.Mempool.Hydration
import ProviderPlatform.Lifecycle.Copies
import ProviderPlatform.Lifecycle.CopyCalls
import ProviderPlatform.Lifecycle.Agreement
import ProviderPlatform.Lifecycle.Intact
import ProviderPlatform.Executor.InHand
import ProviderPlatform.Executor.Stranding
import ProviderPlatform.Lifecycle.Recovery
import ProviderPlatform.Events.Scoping
import ProviderPlatform.Encoding.Scan
import ProviderPlatform.Entities.Names
import ProviderPlatform.Dashboard.Operations
import ProviderPlatform.Encoding.JsonParse
import ProviderPlatform.Events.Wire
import ProviderPlatform.Transition.System
import ProviderPlatform.Events.Feed
import ProviderPlatform.Events.Fanout
import ProviderPlatform.Events.Subscribers
import ProviderPlatform.Lifecycle.OnChain
import ProviderPlatform.Executor.Preflight
import ProviderPlatform.Executor.Undisturbed
import ProviderPlatform.Lifecycle.Drained
import ProviderPlatform.Encoding.Base64
import ProviderPlatform.Providers.SecretKeys
import ProviderPlatform.Providers.Handlers
import ProviderPlatform.Providers.Custody
import ProviderPlatform.Async.Refinement
import ProviderPlatform.Mempool.Bag
import ProviderPlatform.Lifecycle.BagRuns
import ProviderPlatform.Async.Hindsight
import ProviderPlatform.Lifecycle.Mediation
import ProviderPlatform.Dashboard.AuditExport
import ProviderPlatform.Pay.Logins
import ProviderPlatform.Lifecycle.OneTick
