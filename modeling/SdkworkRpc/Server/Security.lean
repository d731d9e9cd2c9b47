import SdkworkRpc.Core.Authenticity
import SdkworkRpc.Core.IdentityPolicy
import SdkworkRpc.Client.Metadata
import SdkworkRpc.Resilience.Retry

/-! Admission of internal calls: the service identity of the peer's certificate and an
optional signed caller context, checked before a request reaches its method. -/
namespace SdkworkRpc.Server

open Machine SdkworkRpc.Core Client
open Resilience (Code)

structure Status where
  code : Code
  message : String
  deriving DecidableEq, Repr

def Status.unauthenticated (message : String) : Status := ⟨.unauthenticated, message⟩
def Status.failedPrecondition (message : String) : Status := ⟨.failedPrecondition, message⟩
def Status.invalidArgument (message : String) : Status := ⟨.invalidArgument, message⟩
def Status.unavailable (message : String) : Status := ⟨.unavailable, message⟩

def okOr {α : Type} (value : Option α) (status : Status) : Except Status α :=
  match value with
  | some a => .ok a
  | none => .error status

/- The typed map of a request: one slot for each verified type. -/
@[ext] structure Extensions where
  serviceIdentity : Option VerifiedRpcServiceIdentity
  callerContext : Option VerifiedRpcCallerContext
  deriving DecidableEq

def Extensions.insertServiceIdentity (e : Extensions) (identity : VerifiedRpcServiceIdentity) :
    Extensions := { e with serviceIdentity := some identity }

def Extensions.insertCallerContext (e : Extensions) (context : VerifiedRpcCallerContext) :
    Extensions := { e with callerContext := some context }

/- The chain is the one the handshake verified, leaf first; a connection without TLS or
without a client certificate has none. -/
structure Request (t : Tonic) where
  peerCerts : Option (List (List UInt8))
  metadata : MetadataMap t
  extensions : Extensions

structure RpcInternalServiceSecurity where
  serviceIdentityPolicy : RpcServiceIdentityPolicy
  callerContextVerifier : Option RpcCallerContextVerifier

def optionalMetadata {t : Tonic} (metadata : MetadataMap t) (key : String) :
    Except Status (Option String) :=
  match metadata.get key with
  | none => .ok none
  | some value => do
    let text ← okOr value.toStr (.invalidArgument ("RPC metadata `" ++ key ++ "` must be ASCII"))
    pure (some text)

def mapIdentityError : RpcFrameworkError → Status
  | .validation _ => .unauthenticated "internal RPC identity verification failed"
  | .configuration _ => .failedPrecondition "internal RPC identity verifier is misconfigured"
  | .transport _ | .discovery _ => .unavailable "internal RPC identity verifier is unavailable"

def validateOptionalServiceAssertion {t : Tonic} (metadata : MetadataMap t)
    (serviceIdentity : VerifiedRpcServiceIdentity) : Except Status Unit := do
  match ← optionalMetadata metadata rpcServiceIdentityAssertionMetadata with
  | none => pure ()
  | some assertion =>
    if assertion ≠ serviceIdentity.serviceId then
      .error (.unauthenticated "internal RPC service assertion does not match mTLS peer identity")
    else pure ()

/- `now` is the clock the source reads itself, right before it verifies. -/
def RpcInternalServiceSecurity.verifyOptionalCallerContext {t : Tonic} (codec : Codec)
    (security : RpcInternalServiceSecurity) (metadata : MetadataMap t)
    (serviceIdentity : VerifiedRpcServiceIdentity) (now : SystemTime) :
    Except Status (Option VerifiedRpcCallerContext) := do
  let encodedContext ← optionalMetadata metadata rpcCallerContextMetadata
  let signature ← optionalMetadata metadata rpcCallerContextSignatureMetadata
  match encodedContext, signature with
  | some encodedContext, some signature =>
    let verifier ← okOr security.callerContextVerifier (.failedPrecondition
      "internal RPC caller context was supplied but no verifier is configured")
    let idempotencyKey ← optionalMetadata metadata "idempotency-key"
    let context ← (verifier.verify codec ⟨encodedContext, signature⟩ serviceIdentity
      idempotencyKey now).mapError mapIdentityError
    pure (some context)
  | none, none => pure none
  | _, _ => .error (.unauthenticated
      "internal RPC caller context and signature must be supplied together")

def RpcInternalServiceSecurity.verifyAndInject {t : Tonic} (x509 : X509) (codec : Codec)
    (security : RpcInternalServiceSecurity) (now : SystemTime) :
    Mutating (Request t) Status Unit := do
  let request ← get
  let certificates ← attempt (okOr request.peerCerts
    (.unauthenticated "internal RPC requires a verified mTLS peer certificate"))
  let leaf ← attempt (okOr certificates.head?
    (.unauthenticated "internal RPC peer certificate chain is empty"))
  let serviceIdentity ← attempt ((security.serviceIdentityPolicy.verifyTlsPeerCertificateDer x509
    leaf).mapError mapIdentityError)
  attempt (validateOptionalServiceAssertion request.metadata serviceIdentity)
  let callerContext ← attempt (security.verifyOptionalCallerContext codec request.metadata
    serviceIdentity now)
  modify fun r => { r with extensions := r.extensions.insertServiceIdentity serviceIdentity }
  match callerContext with
  | some callerContext =>
    modify fun r => { r with extensions := r.extensions.insertCallerContext callerContext }
  | none => pure ()

def RpcInternalServiceSecurity.outcome {t : Tonic} (x509 : X509) (codec : Codec)
    (security : RpcInternalServiceSecurity) (now : SystemTime) (request : Request t) :
    Except Status Unit × Request t :=
  (security.verifyAndInject x509 codec now).run.run request

structure RpcInternalServiceInterceptor where
  security : RpcInternalServiceSecurity

def RpcInternalServiceSecurity.interceptor (security : RpcInternalServiceSecurity) :
    RpcInternalServiceInterceptor := ⟨security⟩

def RpcInternalServiceInterceptor.call {t : Tonic} (x509 : X509) (codec : Codec)
    (interceptor : RpcInternalServiceInterceptor) (now : SystemTime) (request : Request t) :
    Except Status (Request t) :=
  match interceptor.security.outcome x509 codec now request with
  | (.ok (), injected) => .ok injected
  | (.error status, _) => .error status

def requireVerifiedRpcServiceIdentity {t : Tonic} (request : Request t) :
    Except Status VerifiedRpcServiceIdentity :=
  okOr request.extensions.serviceIdentity
    (.unauthenticated "internal RPC request has no verified mTLS service identity")

def requireVerifiedRpcCallerContext {t : Tonic} (request : Request t) :
    Except Status VerifiedRpcCallerContext :=
  okOr request.extensions.callerContext
    (.unauthenticated "internal RPC request has no verified caller context")

/-! ## What an admitted request was given -/

/-- The identity of a chain by itself: no metadata and no clock takes part. -/
def certificateIdentity (x509 : X509) (policy : RpcServiceIdentityPolicy) :
    Option (List (List UInt8)) → Option VerifiedRpcServiceIdentity
  | some (leaf :: _) => (policy.verifyTlsPeerCertificateDer x509 leaf).toOption
  | _ => none

def RpcInternalServiceSecurity.checks {t : Tonic} (x509 : X509) (codec : Codec)
    (security : RpcInternalServiceSecurity) (now : SystemTime)
    (peerCerts : Option (List (List UInt8))) (metadata : MetadataMap t) :
    Except Status (VerifiedRpcServiceIdentity × Option VerifiedRpcCallerContext) := do
  let certificates ← okOr peerCerts
    (.unauthenticated "internal RPC requires a verified mTLS peer certificate")
  let leaf ← okOr certificates.head?
    (.unauthenticated "internal RPC peer certificate chain is empty")
  let identity ← (security.serviceIdentityPolicy.verifyTlsPeerCertificateDer x509 leaf).mapError
    mapIdentityError
  validateOptionalServiceAssertion metadata identity
  let context ← security.verifyOptionalCallerContext codec metadata identity now
  pure (identity, context)

def BothHeaders {t : Tonic} (metadata : MetadataMap t) : Prop :=
  (metadata.get rpcCallerContextMetadata).isSome = true ∧
    (metadata.get rpcCallerContextSignatureMetadata).isSome = true

def Extensions.inject (e : Extensions) (identity : VerifiedRpcServiceIdentity)
    (context : Option VerifiedRpcCallerContext) : Extensions :=
  ⟨some identity, context.or e.callerContext⟩

section

variable {t : Tonic} {x509 : X509} {codec : Codec} {security : RpcInternalServiceSecurity}

theorem okOr_ok {α : Type} {value : Option α} {status : Status} {a : α}
    (present : okOr value status = .ok a) : value = some a := by
  cases value with
  | none => cases present
  | some b => cases present; rfl

/-- What was read is the first value of the key, and nothing was read only where none is. -/
theorem optionalMetadata_ok {metadata : MetadataMap t} {key : String} {read : Option String}
    (passed : optionalMetadata metadata key = .ok read) :
    (metadata.get key).map MetadataValue.toStr = read.map some := by
  unfold optionalMetadata at passed
  split at passed
  · rename_i absent
    cases passed
    rw [absent]
    rfl
  · rename_i value present
    obtain ⟨text, found, passed⟩ := bind_ok passed
    cases passed
    rw [present, Option.map_some, okOr_ok found]
    rfl

theorem optionalMetadata_isSome {metadata : MetadataMap t} {key : String} {read : Option String}
    (passed : optionalMetadata metadata key = .ok read) :
    (metadata.get key).isSome = read.isSome := by
  simpa using congrArg Option.isSome (optionalMetadata_ok passed)

theorem verifyOptionalCallerContext_ok {metadata : MetadataMap t}
    {identity : VerifiedRpcServiceIdentity} {now : SystemTime}
    {context : Option VerifiedRpcCallerContext}
    (passed : security.verifyOptionalCallerContext codec metadata identity now = .ok context) :
    (context.isSome = true ↔ BothHeaders metadata) ∧
      ∀ v, context = some v → ∃ verifier signed key,
        security.callerContextVerifier = some verifier ∧
          optionalMetadata metadata "idempotency-key" = .ok key ∧
          verifier.verify codec signed identity key now = .ok v := by
  unfold RpcInternalServiceSecurity.verifyOptionalCallerContext at passed
  obtain ⟨encoded, readContext, passed⟩ := bind_ok passed
  obtain ⟨signature, readSignature, passed⟩ := bind_ok passed
  unfold BothHeaders
  rw [optionalMetadata_isSome readContext, optionalMetadata_isSome readSignature]
  cases encoded with
  | none =>
    cases signature with
    | none =>
      cases passed
      exact ⟨by simp, fun v absent => by cases absent⟩
    | some signature => cases passed
  | some encoded =>
    cases signature with
    | none => cases passed
    | some signature =>
      obtain ⟨verifier, configured, passed⟩ := bind_ok passed
      obtain ⟨key, read, passed⟩ := bind_ok passed
      obtain ⟨v, verified, passed⟩ := bind_ok passed
      cases passed
      refine ⟨by simp, ?_⟩
      rintro _ ⟨⟩
      exact ⟨verifier, ⟨encoded, signature⟩, key, okOr_ok configured, read, mapError_ok verified⟩

/-- All checks come before the first change, so a request changes by all of it or not at all. -/
theorem outcome_checks (now : SystemTime) (request : Request t) :
    security.outcome x509 codec now request =
      match security.checks x509 codec now request.peerCerts request.metadata with
      | .ok (identity, context) => (.ok (), { request with
          extensions := request.extensions.inject identity context })
      | .error status => (.error status, request) := by
  obtain ⟨peerCerts, metadata, extensions⟩ := request
  simp only [RpcInternalServiceSecurity.outcome, RpcInternalServiceSecurity.verifyAndInject,
    RpcInternalServiceSecurity.checks, get_bind]
  -- One case for each early return, in the order of the source.
  cases okOr peerCerts _ with
  | error status => simp only [attempt_error_bind, error_bind]
  | ok certificates =>
    simp only [attempt_ok_bind, ok_bind]
    cases okOr certificates.head? _ with
    | error status => simp only [attempt_error_bind, error_bind]
    | ok leaf =>
      simp only [attempt_ok_bind, ok_bind]
      cases Except.mapError mapIdentityError _ with
      | error status => simp only [attempt_error_bind, error_bind]
      | ok identity =>
        simp only [attempt_ok_bind, ok_bind]
        cases validateOptionalServiceAssertion metadata identity with
        | error status => simp only [attempt_error_bind, error_bind]
        | ok u =>
          simp only [attempt_ok_bind, ok_bind]
          cases security.verifyOptionalCallerContext codec metadata identity now with
          | error status => simp only [attempt_error_bind, error_bind]
          | ok context =>
            cases context with
            | none => rfl
            | some v => rfl

theorem checks_ok {now : SystemTime} {peerCerts : Option (List (List UInt8))}
    {metadata : MetadataMap t} {identity : VerifiedRpcServiceIdentity}
    {context : Option VerifiedRpcCallerContext}
    (passed : security.checks x509 codec now peerCerts metadata = .ok (identity, context)) :
    certificateIdentity x509 security.serviceIdentityPolicy peerCerts = some identity ∧
      validateOptionalServiceAssertion metadata identity = .ok () ∧
      security.verifyOptionalCallerContext codec metadata identity now = .ok context := by
  unfold RpcInternalServiceSecurity.checks at passed
  obtain ⟨certificates, chain, passed⟩ := bind_ok passed
  obtain ⟨leaf, first, passed⟩ := bind_ok passed
  obtain ⟨derivedIdentity, derived, passed⟩ := bind_ok passed
  obtain ⟨_, asserted, passed⟩ := bind_ok passed
  obtain ⟨verifiedContext, verified, passed⟩ := bind_ok passed
  cases passed
  obtain ⟨rest, rfl⟩ := List.head?_eq_some_iff.mp (okOr_ok first)
  refine ⟨?_, asserted, verified⟩
  rw [okOr_ok chain, certificateIdentity, mapError_ok derived]
  rfl

theorem checks_pass {now : SystemTime} {leaf : List UInt8} {rest : List (List UInt8)}
    {metadata : MetadataMap t} {identity : VerifiedRpcServiceIdentity}
    {context : Option VerifiedRpcCallerContext}
    (derived : security.serviceIdentityPolicy.verifyTlsPeerCertificateDer x509 leaf = .ok identity)
    (asserted : validateOptionalServiceAssertion metadata identity = .ok ())
    (verified : security.verifyOptionalCallerContext codec metadata identity now = .ok context) :
    security.checks x509 codec now (some (leaf :: rest)) metadata = .ok (identity, context) := by
  simp only [RpcInternalServiceSecurity.checks, okOr, List.head?_cons, ok_bind, derived,
    ok_mapError, asserted, verified]
  rfl

theorem admitted_checks {now : SystemTime} {request : Request t}
    (admitted : (security.outcome x509 codec now request).1 = .ok ()) :
    ∃ identity context,
      security.checks x509 codec now request.peerCerts request.metadata =
        .ok (identity, context) ∧
      (security.outcome x509 codec now request).2.extensions =
        request.extensions.inject identity context := by
  rw [outcome_checks] at admitted ⊢
  cases passed : security.checks x509 codec now request.peerCerts request.metadata with
  | error status =>
    rw [passed] at admitted
    cases admitted
  | ok given => exact ⟨given.1, given.2, rfl, rfl⟩

theorem certificateIdentity_allowed {policy : RpcServiceIdentityPolicy}
    {peerCerts : Option (List (List UInt8))} {identity : VerifiedRpcServiceIdentity}
    (derived : certificateIdentity x509 policy peerCerts = some identity) :
    policy.allows identity.serviceId = true := by
  unfold certificateIdentity at derived
  split at derived
  · rename_i leaf rest
    cases known : policy.verifyTlsPeerCertificateDer x509 leaf with
    | error e =>
      rw [known] at derived
      cases derived
    | ok found =>
      rw [known] at derived
      cases derived
      exact (verifyTlsPeerCertificateDer_allowed known).1
  · cases derived

/-- A method behind the interceptor always finds the identity of the peer's chain, and it
is one that the policy allows. -/
theorem call_ok {now : SystemTime} {request handed : Request t}
    (called : security.interceptor.call x509 codec now request = .ok handed) :
    ∃ identity,
      certificateIdentity x509 security.serviceIdentityPolicy request.peerCerts = some identity ∧
      security.serviceIdentityPolicy.allows identity.serviceId = true ∧
      requireVerifiedRpcServiceIdentity handed = .ok identity := by
  unfold RpcInternalServiceInterceptor.call RpcInternalServiceSecurity.interceptor at called
  rw [outcome_checks] at called
  cases passed : security.checks x509 codec now request.peerCerts request.metadata with
  | error status =>
    simp only [passed] at called
    cases called
  | ok given =>
    simp only [passed] at called
    cases called
    have derived := (checks_ok passed).1
    exact ⟨given.1, derived, certificateIdentity_allowed derived, rfl⟩

theorem refused_unchanged {now : SystemTime} {request : Request t} {status : Status}
    (refused : (security.outcome x509 codec now request).1 = .error status) :
    (security.outcome x509 codec now request).2 = request := by
  rw [outcome_checks] at refused ⊢
  cases passed : security.checks x509 codec now request.peerCerts request.metadata with
  | error status => rfl
  | ok given =>
    rw [passed] at refused
    cases refused

theorem admitted_identity {now : SystemTime} {request : Request t}
    (admitted : (security.outcome x509 codec now request).1 = .ok ()) :
    certificateIdentity x509 security.serviceIdentityPolicy request.peerCerts =
      (security.outcome x509 codec now request).2.extensions.serviceIdentity := by
  obtain ⟨identity, context, passed, injected⟩ := admitted_checks admitted
  rw [injected, (checks_ok passed).1]
  rfl

theorem verified_issuer {metadata : MetadataMap t} {identity : VerifiedRpcServiceIdentity}
    {now : SystemTime} {context : Option VerifiedRpcCallerContext} {v : VerifiedRpcCallerContext}
    (verified : security.verifyOptionalCallerContext codec metadata identity now = .ok context)
    (held : context = some v) : v.issuerServiceId = identity.serviceId := by
  obtain ⟨verifier, signed, key, -, -, accepted⟩ :=
    (verifyOptionalCallerContext_ok verified).2 v held
  obtain ⟨payload, _, _, rfl, checks⟩ := verify_ok accepted
  exact checks.issuer

/- For every policy, verifier and clock. An error leaves the request as it was. An admitted
request carries the identity of its own chain; a caller context is there exactly when both
headers are, and names that identity as its issuer. Between two requests with one chain the
metadata makes no difference to the identity, and a chain without one is never admitted. -/
theorem identity_from_certificate_only (x509 : X509) (codec : Codec)
    (security : RpcInternalServiceSecurity) (now : SystemTime) (request : Request t)
    (fresh : request.extensions = ⟨none, none⟩) :
    (∀ status, (security.outcome x509 codec now request).1 = .error status →
      (security.outcome x509 codec now request).2.extensions = request.extensions) ∧
    ((security.outcome x509 codec now request).1 = .ok () →
      ∃ identity,
        certificateIdentity x509 security.serviceIdentityPolicy request.peerCerts = some identity ∧
        (security.outcome x509 codec now request).2.extensions.serviceIdentity = some identity ∧
        ((security.outcome x509 codec now request).2.extensions.callerContext.isSome = true ↔
          BothHeaders request.metadata) ∧
        ∀ v, (security.outcome x509 codec now request).2.extensions.callerContext = some v →
          v.issuerServiceId = identity.serviceId) ∧
    (∀ later (other : Request t), other.peerCerts = request.peerCerts →
      (security.outcome x509 codec now request).1 = .ok () →
      (security.outcome x509 codec later other).1 = .ok () →
      (security.outcome x509 codec later other).2.extensions.serviceIdentity =
        (security.outcome x509 codec now request).2.extensions.serviceIdentity) ∧
    (certificateIdentity x509 security.serviceIdentityPolicy request.peerCerts = none →
      ∀ metadata : MetadataMap t, ∃ status,
        (security.outcome x509 codec now { request with metadata := metadata }).1 =
          .error status) := by
  refine ⟨?_, ?_, ?_, ?_⟩
  · intro status refused
    rw [refused_unchanged refused]
  · intro admitted
    obtain ⟨identity, context, passed, injected⟩ := admitted_checks admitted
    obtain ⟨derived, -, verified⟩ := checks_ok passed
    rw [injected, fresh, Extensions.inject, Option.or_none]
    exact ⟨identity, derived, rfl, (verifyOptionalCallerContext_ok verified).1,
      fun v held => verified_issuer verified held⟩
  · intro later other same admitted admitted'
    rw [← admitted_identity admitted, ← admitted_identity admitted', same]
  · intro unknown metadata
    cases refused : security.checks x509 codec now request.peerCerts metadata with
    | error status => exact ⟨status, by rw [outcome_checks, refused]⟩
    | ok given =>
      rw [(checks_ok refused).1] at unknown
      cases unknown

end

/- A certificate for the order service, as its parser and SHA-256 read it. -/
def ordersLeaf : List UInt8 :=
  (Base64url.decode ("MIIBJjCB2aADAgECAgEBMAUGAytlcDARMQ8wDQYDVQQDDAZvcmRlcnMwHhcNNzAwMTAxMDAwM" ++
    "DAwWhcNNDkxMjMxMjM1OTU5WjARMQ8wDQYDVQQDDAZvcmRlcnMwKjAFBgMrZXADIQBUHcSCq_etMddprwunV1UBsVfQ" ++
    "lwyO0IJbowYlBjI19KNWMFQwMwYDVR0RBCwwKoYoc3BpZmZlOi8vaW50ZXJuYWwvc2Rrd29yay9zZXJ2aWNlL29yZGV" ++
    "yczAdBgNVHQ4EFgQU3WwcxIs2urczq9idKAprst_5aeowBQYDK2VwA0EAfHXv0uV-Dq1iJWVsk8mRGyEI8xjiaSSY4t" ++
    "2tgW19znSO0oRqGvuIQQrXV8RsOSbZETz5_IfPvdNXaxoYC6MsCw")).getD []

def ordersX509 : X509 where
  Certificate := Unit
  fromDer der := if der = ordersLeaf then .ok () else .error "unknown certificate"
  subjectAlternativeName _ := .ok (some [.uri "spiffe://internal/sdkwork/service/orders"])
  sha256Hash der :=
    if der = ordersLeaf then "d67ff64512d0f589c3cd1434ac237ac7948924798da70fa1254b6b25646ba7eb"
    else ""

def billingSecurity : RpcInternalServiceSecurity :=
  ⟨⟨"internal", ["orders"]⟩, some billing⟩

def assertedRequest : Request http where
  peerCerts := some [ordersLeaf]
  metadata := (MetadataValue.tryFrom http "orders").elim (emptyMap http)
    ((emptyMap http).insert rpcServiceIdentityAssertionMetadata)
  extensions := ⟨none, none⟩

def ordersIdentity : VerifiedRpcServiceIdentity :=
  ⟨"orders", "internal", "spiffe://internal/sdkwork/service/orders",
    "d67ff64512d0f589c3cd1434ac237ac7948924798da70fa1254b6b25646ba7eb"⟩

theorem assertedRequest_peerCerts : assertedRequest.peerCerts = some [ordersLeaf] := rfl

theorem ordersLeaf_identity :
    billingSecurity.serviceIdentityPolicy.verifyTlsPeerCertificateDer ordersX509 ordersLeaf =
      .ok ordersIdentity := by
  have parsed : ordersX509.fromDer ordersLeaf = .ok () := by simp only [ordersX509, if_true]
  have hashed : ordersX509.sha256Hash ordersLeaf = ordersIdentity.certificateSha256 := by
    simp only [ordersX509, if_true, ordersIdentity]
  unfold RpcServiceIdentityPolicy.verifyTlsPeerCertificateDer
  rw [parsed, hashed]
  rfl

theorem identity_from_certificate_orders :
    (billingSecurity.outcome ordersX509 orderCodec ⟨0⟩ assertedRequest).1 = .ok () ∧
      (billingSecurity.outcome ordersX509 orderCodec ⟨0⟩ assertedRequest).2.extensions =
        ⟨some ordersIdentity, none⟩ := by
  have asserted : validateOptionalServiceAssertion assertedRequest.metadata ordersIdentity =
      .ok () := by decide +kernel
  have alone : billingSecurity.verifyOptionalCallerContext orderCodec assertedRequest.metadata
      ordersIdentity ⟨0⟩ = .ok none := rfl
  have passed : billingSecurity.checks ordersX509 orderCodec ⟨0⟩ (some [ordersLeaf])
      assertedRequest.metadata = .ok (ordersIdentity, none) :=
    checks_pass ordersLeaf_identity asserted alone
  have admitted : (billingSecurity.outcome ordersX509 orderCodec ⟨0⟩ assertedRequest).1 =
      .ok () := by
    rw [outcome_checks, assertedRequest_peerCerts, passed]
  obtain ⟨identity, derived, injected, both, -⟩ := (identity_from_certificate_only ordersX509
    orderCodec billingSecurity ⟨0⟩ assertedRequest rfl).2.1 admitted
  have same : identity = ordersIdentity := by
    rw [assertedRequest_peerCerts, certificateIdentity, ordersLeaf_identity] at derived
    exact (Option.some.inj derived).symm
  have bare : ¬ BothHeaders assertedRequest.metadata := fun headers => by cases headers.1
  have noContext := Option.not_isSome_iff_eq_none.mp (mt both.mp bare)
  exact ⟨admitted, Extensions.ext (same ▸ injected) noContext⟩

end SdkworkRpc.Server
