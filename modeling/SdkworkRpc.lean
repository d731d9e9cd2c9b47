import SdkworkRpc.CircuitBreaker.OpenedAt
import SdkworkRpc.CircuitBreaker.RecoveryTimeout
import SdkworkRpc.CircuitBreaker.Probes
import SdkworkRpc.CircuitBreaker.Sequential
import SdkworkRpc.CircuitBreaker.SequentialLaw
import SdkworkRpc.CircuitBreaker.LateOutcomes
import SdkworkRpc.CircuitBreaker.StateCalls
import SdkworkRpc.CircuitBreaker.Progress
import SdkworkRpc.CircuitBreaker.Tripping
import SdkworkRpc.CircuitBreaker.Trial
import SdkworkRpc.CircuitBreaker.NonOverlapping
import SdkworkRpc.Client.Metadata
import SdkworkRpc.Client.LoadBalance
import SdkworkRpc.Client.Rotation
import SdkworkRpc.Core.ServiceIdentity
import SdkworkRpc.Client.Tls
import SdkworkRpc.Client.Transport
import SdkworkRpc.Core.CallerContext
import SdkworkRpc.Core.Authenticity
import SdkworkRpc.Client.Discovery
import SdkworkRpc.Client.WatchCache
import SdkworkRpc.Client.Registry
import SdkworkRpc.Client.WatchAgreement
import SdkworkRpc.Client.RacingDiscover
import SdkworkRpc.Client.WatchLoops
import SdkworkRpc.Discovery.Lifecycle
import SdkworkRpc.Discovery.Registration
import SdkworkRpc.Discovery.RpcMetadata
import SdkworkRpc.Discovery.InstanceRequests
import SdkworkRpc.Resilience.Retry
import SdkworkRpc.Resilience.RetryRuns
import SdkworkRpc.Resilience.Pushback
import SdkworkRpc.Resilience.Backoff
import SdkworkRpc.Client.RetryBudget
import SdkworkRpc.Client.BudgetObservation
import SdkworkRpc.Client.BudgetExact
import SdkworkRpc.Client.CacheFreshness
import SdkworkRpc.Client.ResolverStack
import SdkworkRpc.Core.IdentityPolicy
import SdkworkRpc.Core.SpiffeIdentity
import SdkworkRpc.Core.RoundTrip
import SdkworkRpc.Core.ReplayWindow
import SdkworkRpc.Core.IssuerKeys
import SdkworkRpc.Core.IdentityUri
import SdkworkRpc.Client.Credential
import SdkworkRpc.Client.IssuedCredential
import SdkworkRpc.Server.ServeLifecycle
import SdkworkRpc.Server.AfterReturn
import SdkworkRpc.Discovery.RenewLoop
import SdkworkRpc.Discovery.MissedRenewals
import SdkworkRpc.Server.Security
import SdkworkRpc.Server.Admission
import SdkworkRpc.Server.RepeatedHeaders
import SdkworkRpc.Server.Assembly
import SdkworkRpc.Server.Mtls
import SdkworkRpc.Server.Mesh
import SdkworkRpc.Server.EndToEnd
import SdkworkRpc.Discovery.Endpoint
import SdkworkRpc.Resilience.JitterWindow
import SdkworkRpc.Client.WatchPauses
import SdkworkRpc.Client.WatchOrder
import SdkworkRpc.Client.WatchReplica
