import SparkObservability.Machine
import SparkObservability.History
import SparkObservability.Clock
import SparkObservability.Interleaving
import SparkObservability.Outbox
import SparkObservability.Retransmission
import SparkObservability.RetryCycle
import SparkObservability.Batcher
import SparkObservability.RetryingBatcher
import SparkObservability.Spread
import SparkObservability.Splitting
import SparkObservability.Digest
import SparkObservability.Overwriting
import SparkObservability.Effects
import SparkObservability.Plans
import SparkObservability.Json.Values
import SparkObservability.Json.Reader
import SparkObservability.Json.Framing
import SparkObservability.Json.Extent
import SparkObservability.Json.Writer
import SparkObservability.Records
import SparkObservability.Client.Operations
import SparkObservability.Client.Calls
import SparkObservability.Client.Delivery
import SparkObservability.Client.Retry
import SparkObservability.Client.GivingUp
import SparkObservability.Client.BackOff
import SparkObservability.Client.Batching
import SparkObservability.Client.Freshness
import SparkObservability.Client.Payload
import SparkObservability.Client.ContentLength
import SparkObservability.Client.Transmission
import SparkObservability.Client.Transfers
import SparkObservability.Client.Cumulative
import SparkObservability.Client.Recursion
import SparkObservability.Client.Refinement
import SparkObservability.Client.Outage
import SparkObservability.Client.Recovery
import SparkObservability.Listener.Operations
import SparkObservability.Listener.Callbacks
import SparkObservability.Listener.Attribution
import SparkObservability.Listener.Tracking
import SparkObservability.Listener.Attempts
import SparkObservability.Listener.Isolation
import SparkObservability.Listener.Interference
import SparkObservability.Listener.Skewness
import SparkObservability.Listener.Completion
import SparkObservability.Listener.Leftovers
import SparkObservability.Listener.Grouping
import SparkObservability.Listener.Wholeness
import SparkObservability.Python
import SparkObservability.Services.SecretsManager
import SparkObservability.Services.OpenSearch
import SparkObservability.Services.Session
import SparkObservability.Services.Footprint
import SparkObservability.Rotation.Operations
import SparkObservability.Rotation.Safety
import SparkObservability.Rotation.Agreement
import SparkObservability.Rotation.Footprint
import SparkObservability.Bootstrap.Templates
import SparkObservability.Bootstrap.Operations
import SparkObservability.Bootstrap.Resources
import SparkObservability.Bootstrap.Requests
import SparkObservability.Bootstrap.Creation
import SparkObservability.Bootstrap.Soundness
import SparkObservability.Bootstrap.Deletion
import SparkObservability.Bootstrap.LifeCycle
import SparkObservability.Bootstrap.Footprint
import SparkObservability.Bootstrap.Interruption
import SparkObservability.Backend.Interplay
import SparkObservability.Backend.RoundTrip
import SparkObservability.Ingestion.Documents
import SparkObservability.Ingestion.Pipelines
import SparkObservability.Ingestion.Mapping
import SparkObservability.Ingestion.Evidence
import SparkObservability.Ingestion.Logs
import SparkObservability.Stack.Subnets
import SparkObservability.Stack.Passwords
import SparkObservability.Stack.SecretFormat
import SparkObservability.ReverseProxy.Lookup
