import OidcRs.Exchange.SingleFlight
import OidcRs.Exchange.Coalescing
import OidcRs.Exchange.NegativeCaching
import OidcRs.Exchange.FlushBarrier
import OidcRs.Exchange.FlushCounts
import OidcRs.Exchange.Isolation
import OidcRs.Exchange.Eviction
import OidcRs.Exchange.Accumulation
import OidcRs.Exchange.Abandonment
import OidcRs.Exchange.Lifetimes
import OidcRs.Exchange.Equivalence
import OidcRs.Exchange.WorkingCache
import OidcRs.Exchange.Outcomes
import OidcRs.Exchange.Progress
import OidcRs.Exchange.Exclusion
import OidcRs.Exchange.Separation
import OidcRs.Validation.Acceptance
import OidcRs.Validation.Completeness
import OidcRs.Validation.Refresh
import OidcRs.Validation.Scopes
import OidcRs.Validation.Window
import OidcRs.Validation.Freshness
import OidcRs.Gateway.Authentication
import OidcRs.Gateway.Credentials
import OidcRs.Gateway.Blame
import OidcRs.Gateway.Progress
import OidcRs.Gateway.Answers
import OidcRs.Gateway.Provenance
import OidcRs.Gateway.Reversal
import OidcRs.Serialization
