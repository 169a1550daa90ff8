import SecureExchange.Credential.Context
import SecureExchange.EventLog.Logging
import SecureExchange.Exchange.Order
import SecureExchange.Exchange.Step
import SecureExchange.Failure.Formation
import SecureExchange.Proofs.Exchange.Opening
import SecureExchange.Proofs.Exchange.Release
import SecureExchange.Proofs.Exchange.SingleRequest
import SecureExchange.Proofs.Exchange.StagedRequest
import SecureExchange.Proofs.Failure.Classification
import SecureExchange.Proofs.Order.Leaks
import SecureExchange.Proofs.Exchange.Closes
import SecureExchange.Proofs.Exchange.Listing
import SecureExchange.Proofs.Order.Cleanup
import SecureExchange.Proofs.Address.Accepted
import SecureExchange.Proofs.Address.Lenient
import SecureExchange.Proofs.Address.Locations
import SecureExchange.Proofs.Exchange.SecretRuns
import SecureExchange.Proofs.Order.Disclosure
import SecureExchange.Proofs.Address.FormPairs
import SecureExchange.Proofs.Redaction.Independence
import SecureExchange.Proofs.Exchange.Frame
import SecureExchange.Proofs.Exchange.Phases
import SecureExchange.Proofs.Exchange.Streams
import SecureExchange.Proofs.EventLog.Installation
import SecureExchange.Proofs.Exchange.FailedReopening
import SecureExchange.Proofs.Order.Completion
import SecureExchange.Proofs.Redaction.Showable
import SecureExchange.Proofs.Order.Showing
import SecureExchange.Proofs.Exchange.Starting
import SecureExchange.Proofs.Exchange.ReadFailures
import SecureExchange.Proofs.Redaction.Rejoining
import SecureExchange.Proofs.Exchange.Observers
import SecureExchange.Proofs.Redaction.Levels
import SecureExchange.Proofs.EventLog.Thresholds
import SecureExchange.Proofs.Redaction.Parameters
import SecureExchange.Proofs.Order.FieldLookup
import SecureExchange.Proofs.Failure.Conditions
import SecureExchange.Proofs.Failure.Chains
import SecureExchange.Proofs.Exchange.Timeouts
import SecureExchange.Proofs.Credential.Contexts
