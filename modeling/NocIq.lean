import NocIq.Analytics.TrendBuckets
import NocIq.Audit.EventCoverage
import NocIq.Audit.Sanitize
import NocIq.Auth.ClientAddress
import NocIq.Auth.Expiry
import NocIq.Auth.FailedRefreshes
import NocIq.Auth.Lockout
import NocIq.Auth.LogoutAll
import NocIq.Auth.RateBackends
import NocIq.Auth.Reuse
import NocIq.Contract.CallLimits
import NocIq.Contract.Fallback
import NocIq.Contract.ResponseVersions
import NocIq.Contract.Translation
import NocIq.Contract.Unambiguous
import NocIq.Http.BodySize
import NocIq.Http.TokenBuckets
import NocIq.Job.Cleanup
import NocIq.Job.LeaseOwner
import NocIq.Job.Leases
import NocIq.Job.Polling
import NocIq.Job.ProgressOrder
import NocIq.Job.Rebalance
import NocIq.Job.RecoveryProgress
import NocIq.Job.Replays
import NocIq.Job.RetryAccounting
import NocIq.Listing.PagedListings
import NocIq.Metrics.CardinalityGuard
import NocIq.Metrics.ExportFidelity
import NocIq.Metrics.Percentile
import NocIq.Migration.BatchedCopy
import NocIq.Migration.LatestFlag
import NocIq.Outage.AllOrNothing
import NocIq.Outage.DedupOrder
import NocIq.Outage.Final
import NocIq.Outage.Resolved
import NocIq.Outage.RoundTrip
import NocIq.Outage.RowOutcomes
import NocIq.Outage.SoftDelete
import NocIq.Payment.BulkReconciliation
import NocIq.Payment.ConcurrentCreate
import NocIq.Payment.DistinctOutages
import NocIq.Payment.History
import NocIq.Payment.IdempotencyCleanup
import NocIq.Payment.NonceWindow
import NocIq.Payment.Provenance
import NocIq.Payment.SignedMessages
import NocIq.Settlement.Idempotence
import NocIq.Settlement.LockIds
import NocIq.Sla.CalculationLaw
import NocIq.Sla.ConcurrentDisputes
import NocIq.Sla.ConfigDiffs
import NocIq.Sla.ConfigHistory
import NocIq.Sla.CreationDates
import NocIq.Sla.Dashboards
import NocIq.Sla.Recency
import NocIq.Sla.Snapshots
import NocIq.Sla.Traces
import NocIq.Wallet.CachePolicy
import NocIq.Wallet.Creation
import NocIq.Wallet.Reading
import NocIq.Webhook.AttemptBound
import NocIq.Webhook.Autoscaler
import NocIq.Webhook.Backpressure
import NocIq.Webhook.CacheCoherence
import NocIq.Webhook.ContextReplay
import NocIq.Webhook.FanOut
import NocIq.Webhook.FastSsrf
import NocIq.Webhook.Identity
import NocIq.Webhook.OwnOutcome
import NocIq.Webhook.Secrets
import NocIq.Webhook.Slo
import NocIq.Webhook.ValidatedSends
