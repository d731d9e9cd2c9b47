import SdkworkRpc.Client.LoadBalance
import SdkworkRpc.Client.Tls
import SdkworkRpc.Core.Utils

/-! The channel a client opens to an endpoint: the address it dials and the TLS
settings it carries. A call that returns a `Dial` has got as far as connecting. -/
namespace SdkworkRpc.Client

open SdkworkRpc.Core Machine Text SdkworkUtils

structure GrpcChannelConfig where
  connectTimeout : Duration
  keepaliveInterval : Duration
  keepaliveTimeout : Duration
  keepaliveWhileIdle : Bool
  tls : Option RpcTlsConfig
  deriving DecidableEq

def GrpcChannelConfig.default : GrpcChannelConfig where
  connectTimeout := .fromSecs 10
  keepaliveInterval := .fromSecs 30
  keepaliveTimeout := .fromSecs 10
  keepaliveWhileIdle := true
  tls := none

theorem http_not_https {uri : String} (plain : startsWith uri "http://" = true) :
    startsWith uri "https://" = false := by
  apply startsWith_exclusive _ _ plain
  · decide
  · decide

section

variable [SdkworkUtils]

def tonicEndpointUri (grpcEndpoint : String) : RpcFrameworkResult String :=
  let trimmed := trim grpcEndpoint
  if isBlank (some trimmed) then .error (.validation "grpc endpoint is required")
  else match stripPrefix trimmed "grpcs://" with
    | some rest => .ok ("https://" ++ rest)
    | none => match stripPrefix trimmed "grpc://" with
      | some rest => .ok ("http://" ++ rest)
      | none =>
        if startsWith trimmed "http://" || startsWith trimmed "https://" then .ok trimmed
        else .ok ("http://" ++ trimmed)

/- tonic's endpoint at the moment `connect` is called on it. -/
structure Dial where
  uri : String
  connectTimeout : Duration
  http2KeepAliveInterval : Duration
  keepAliveTimeout : Duration
  keepAliveWhileIdle : Bool
  tls : Option ClientTlsConfig
  deriving DecidableEq

def Dial.https (dial : Dial) : Bool := startsWith dial.uri "https://"

/-- TLS is negotiated on an `https` address with a TLS configuration, and only there. -/
def Dial.negotiatesTls (dial : Dial) : Bool := dial.https && dial.tls.isSome

/- What tonic refuses before connecting: an address, or a TLS configuration for it. -/
structure Transport where
  fromShared : String → Except String Unit
  tlsConfig : Dial → ClientTlsConfig → Except String Unit

def connectGrpcChannelWithConfig (build : Build) (tonic : Transport) (endpoint : String)
    (config : GrpcChannelConfig) : RpcFrameworkResult Dial := do
  let uri ← tonicEndpointUri endpoint
  (tonic.fromShared uri).mapError .transport
  let dial : Dial := ⟨uri, config.connectTimeout, config.keepaliveInterval,
    config.keepaliveTimeout, config.keepaliveWhileIdle, none⟩
  match config.tls with
  | some tlsConfig => do
    let clientTls ← buildClientTlsConfig build tlsConfig
    (tonic.tlsConfig dial clientTls).mapError fun error =>
      .configuration ("tls config error: " ++ error)
    pure { dial with tls := some clientTls }
  | none => pure dial

def connectGrpcChannel (build : Build) (tonic : Transport) (endpoint : String) :
    RpcFrameworkResult Dial :=
  connectGrpcChannelWithConfig build tonic endpoint .default

abbrev NameResolver := String → RpcFrameworkResult (List ResolvedEndpoint)

/- The cursor is advanced by the pick even when the connection then fails. -/
def resolveAndConnect (build : Build) (tonic : Transport) (resolver : NameResolver)
    (serviceName : String) (algorithm : LoadBalanceAlgorithm) (cursor : RoundRobinCursor)
    (config : GrpcChannelConfig) : RpcFrameworkResult Dial × RoundRobinCursor :=
  match resolver serviceName with
  | .error error => (.error error, cursor)
  | .ok endpoints =>
    match pickEndpoint endpoints algorithm cursor with
    | (none, cursor) =>
      (.error (.discovery ("no endpoints resolved for service " ++ serviceName)), cursor)
    | (some picked, cursor) =>
      (connectGrpcChannelWithConfig build tonic picked.endpoint config, cursor)

/-! ## Which endpoints are dialled over TLS -/

/-- The schemes that `tonicEndpointUri` turns into `https`. -/
def secureScheme (endpoint : String) : Bool :=
  startsWith (trim endpoint) "grpcs://" || startsWith (trim endpoint) "https://"

theorem tonicEndpointUri_trim {address : String} :
    tonicEndpointUri (trim address) = tonicEndpointUri address := by
  unfold tonicEndpointUri
  rw [trim_trim]

theorem tonicEndpointUri_https {endpoint uri : String}
    (converted : tonicEndpointUri endpoint = .ok uri) :
    startsWith uri "https://" = secureScheme endpoint := by
  unfold secureScheme
  simp only [tonicEndpointUri] at converted
  split at converted
  · cases converted
  · split at converted
    · rename_i rest stripped
      cases converted
      rw [startsWith_of_stripPrefix stripped, startsWith_self_append, Bool.true_or]
    · rename_i kept
      rw [not_startsWith_of_stripPrefix kept, Bool.false_or]
      split at converted
      · rename_i rest stripped
        cases converted
        have grpc := startsWith_of_stripPrefix stripped
        rw [http_not_https (startsWith_self_append _ _)]
        exact (startsWith_exclusive (by decide) (by decide) grpc).symm
      · split at converted
        · cases converted
          rfl
        · rename_i bare
          cases converted
          rw [http_not_https (startsWith_self_append _ _)]
          simp_all

theorem connect_congr {build : Build} {tonic : Transport} {a b : String}
    {config : GrpcChannelConfig} (same : tonicEndpointUri a = tonicEndpointUri b) :
    connectGrpcChannelWithConfig build tonic a config =
      connectGrpcChannelWithConfig build tonic b config := by
  unfold connectGrpcChannelWithConfig
  rw [same]

theorem connect_reached {build : Build} {tonic : Transport} {endpoint : String}
    {config : GrpcChannelConfig} {dial : Dial}
    (reached : connectGrpcChannelWithConfig build tonic endpoint config = .ok dial) :
    dial.https = secureScheme endpoint ∧ dial.tls.isSome = config.tls.isSome := by
  unfold connectGrpcChannelWithConfig at reached
  obtain ⟨uri, converted, reached⟩ := bind_ok reached
  obtain ⟨_, -, reached⟩ := bind_ok reached
  have scheme := tonicEndpointUri_https converted
  cases channel : config.tls with
  | none =>
    rw [channel] at reached
    cases reached
    exact ⟨scheme, rfl⟩
  | some tlsConfig =>
    rw [channel] at reached
    obtain ⟨clientTls, -, reached⟩ := bind_ok reached
    obtain ⟨_, -, reached⟩ := bind_ok reached
    cases reached
    exact ⟨scheme, rfl⟩

theorem connect_negotiates {build : Build} {tonic : Transport} {endpoint : String}
    {config : GrpcChannelConfig} {dial : Dial} (secured : config.tls.isSome = true)
    (reached : connectGrpcChannelWithConfig build tonic endpoint config = .ok dial) :
    dial.https = true ∧ dial.negotiatesTls = true ↔ secureScheme endpoint = true := by
  obtain ⟨scheme, carried⟩ := connect_reached reached
  unfold Dial.negotiatesTls
  rw [scheme, carried, secured, Bool.and_true, and_self]

theorem resolveAndConnect_reached {build : Build} {tonic : Transport} {resolver : NameResolver}
    {serviceName : String} {algorithm : LoadBalanceAlgorithm} {cursor next : RoundRobinCursor}
    {config : GrpcChannelConfig} {endpoints : List ResolvedEndpoint} {dial : Dial}
    (resolved : resolver serviceName = .ok endpoints)
    (reached : resolveAndConnect build tonic resolver serviceName algorithm cursor config =
      (.ok dial, next)) :
    ∃ picked ∈ candidates endpoints,
      connectGrpcChannelWithConfig build tonic picked.endpoint config = .ok dial := by
  simp only [resolveAndConnect, resolved] at reached
  split at reached
  · cases reached
  · rename_i picked _ pick
    obtain ⟨connected, -⟩ := Prod.mk.inj reached
    exact ⟨picked, pickEndpoint_mem pick, connected⟩

def Dialable (build : Build) (tonic : Transport) (config : GrpcChannelConfig)
    (endpoint : String) : Prop :=
  ∃ dial, connectGrpcChannelWithConfig build tonic endpoint config = .ok dial

/- A channel configured for TLS is dialled over TLS exactly for the secure schemes; for a
resolver's snapshot, whatever the algorithm and the cursor, exactly when every candidate
that can be dialled has one. -/
theorem tls_channel_secure_iff (build : Build) (tonic : Transport) (config : GrpcChannelConfig)
    (secured : config.tls.isSome = true) :
    (∀ endpoint dial, connectGrpcChannelWithConfig build tonic endpoint config = .ok dial →
      (dial.https = true ∧ dial.negotiatesTls = true ↔ secureScheme endpoint = true)) ∧
    (∀ (resolver : NameResolver) serviceName endpoints, resolver serviceName = .ok endpoints →
      endpoints.length ≤ usizeMax →
      ((∀ algorithm cursor dial next,
          resolveAndConnect build tonic resolver serviceName algorithm cursor config =
            (.ok dial, next) → dial.https = true ∧ dial.negotiatesTls = true) ↔
        ∀ e ∈ candidates endpoints, Dialable build tonic config e.endpoint →
          secureScheme e.endpoint = true)) := by
  constructor
  · intro endpoint dial reached
    exact connect_negotiates secured reached
  · intro resolver serviceName endpoints resolved fits
    constructor
    -- Round robin reaches every candidate, so each that can be dialled has to be secure.
    · intro always e member dialable
      obtain ⟨dial, reached⟩ := dialable
      obtain ⟨cursor, next, pick⟩ := roundRobin_reaches member fits
      apply (connect_negotiates secured reached).mp
      apply always .roundRobin cursor dial next
      simp only [resolveAndConnect, resolved, pick, reached]
    · intro secure algorithm cursor dial next reached
      obtain ⟨picked, member, connected⟩ := resolveAndConnect_reached resolved reached
      exact (connect_negotiates secured connected).mpr (secure picked member ⟨dial, connected⟩)

end

attribute [local instance] languageUtils

def tlsBuild : Build := ⟨true, fun _ => false, fun path => .error path⟩
def openTransport : Transport := ⟨fun _ => .ok (), fun _ _ => .ok ()⟩
def tlsChannel : GrpcChannelConfig :=
  { GrpcChannelConfig.default with tls := some .serverVerified }

theorem tls_channel_secure_grpcs : ∃ dial,
    connectGrpcChannelWithConfig tlsBuild openTransport " grpcs://h:1 " tlsChannel = .ok dial ∧
      dial.uri = "https://h:1" ∧ (dial.https = true ∧ dial.negotiatesTls = true) :=
  ⟨_, rfl, by decide,
    ((tls_channel_secure_iff tlsBuild openTransport tlsChannel rfl).1 " grpcs://h:1 " _ rfl).mpr
      (by decide)⟩

/-- A `grpc://` endpoint is dialled in plaintext although the channel asks for TLS, both
directly and as the only endpoint of a snapshot. -/
theorem tls_channel_dials_plaintext :
    tlsChannel.tls.isSome = true ∧ ∃ dial,
      connectGrpcChannelWithConfig tlsBuild openTransport "grpc://h:1" tlsChannel = .ok dial ∧
      (resolveAndConnect tlsBuild openTransport (fun _ => .ok [⟨"grpc://h:1", 100, true⟩]) "orders"
        .pickFirst .default tlsChannel).1 = .ok dial ∧
      dial.uri = "http://h:1" ∧ dial.tls.isSome = true ∧ dial.negotiatesTls = false :=
  ⟨rfl, _, rfl, rfl, by decide, by decide, by decide⟩

end SdkworkRpc.Client
