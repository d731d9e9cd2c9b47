import SdkworkRpc.Core.ServiceIdentity
import SdkworkRpc.Library.Machine
import Mathlib.Logic.Function.Basic

/-! Caller contexts: built, signed for one audience, and verified against the mTLS
peer that presents them. Serialization and the HMAC are parameters. -/
namespace SdkworkRpc.Core

open Machine Text

def callerContextSignatureDomain : String := "sdkwork-rpc-caller-context/v1\\n"
def callerContextVersion : UInt8 := 1
def maxCallerContextTtl : Duration := .fromSecs 300
def maxClockSkew : Duration := .fromSecs 30
def maxContextMetadataBytes : Nat := 4096

def rpcCallerContextMetadata : String := "x-sdkwork-rpc-caller-context"
def rpcCallerContextSignatureMetadata : String := "x-sdkwork-rpc-caller-signature"
def rpcServiceIdentityAssertionMetadata : String := "x-sdkwork-service"

inductive RpcCallerActorKind where
  | user | service
  deriving DecidableEq, Repr

structure RpcCallerContext where
  tenantId : String
  organizationId : String
  actorId : String
  actorKind : RpcCallerActorKind
  sessionId : Option String
  requestId : String
  traceId : Option String
  idempotencyKey : Option String
  audienceServiceId : String
  deriving DecidableEq, Repr

structure RpcCallerContextBuilder where
  tenantId : Option String
  organizationId : Option String
  actorId : Option String
  actorKind : Option RpcCallerActorKind
  sessionId : Option String
  requestId : Option String
  traceId : Option String
  idempotencyKey : Option String
  audienceServiceId : Option String

def validatedIdentifier (field value : String) : RpcFrameworkResult String := do
  validateIdentifier field value
  pure value

def requiredIdentifier (field : String) (value : Option String) : RpcFrameworkResult String := do
  let value ← orInvalid value ("caller context " ++ field ++ " is required")
  validatedIdentifier field value

def optionalIdentifier (field : String) : Option String → RpcFrameworkResult (Option String)
  | none => .ok none
  | some value => do
    let value ← validatedIdentifier field value
    pure (some value)

def RpcCallerContextBuilder.build (b : RpcCallerContextBuilder) :
    RpcFrameworkResult RpcCallerContext := do
  let tenantId ← requiredIdentifier "tenant_id" b.tenantId
  let organizationId ← requiredIdentifier "organization_id" b.organizationId
  let actorId ← requiredIdentifier "actor_id" b.actorId
  let actorKind ← orInvalid b.actorKind "caller context actor_kind is required"
  let requestId ← requiredIdentifier "request_id" b.requestId
  let audienceServiceId ← requiredIdentifier "audience_service_id" b.audienceServiceId
  let sessionId ← optionalIdentifier "session_id" b.sessionId
  let traceId ← optionalIdentifier "trace_id" b.traceId
  let idempotencyKey ← optionalIdentifier "idempotency_key" b.idempotencyKey
  ensure (!(actorKind == .user && sessionId.isNone)) "user caller context requires a session_id"
  pure ⟨tenantId, organizationId, actorId, actorKind, sessionId, requestId, traceId,
    idempotencyKey, audienceServiceId⟩

structure RpcCallerContextSigningKey where
  asBytes : List UInt8
  size : asBytes.length = 32
  deriving DecidableEq

def RpcCallerContextSigningKey.fromSecretBytes (secret : List UInt8) :
    RpcFrameworkResult RpcCallerContextSigningKey :=
  if size : secret.length = 32 then .ok ⟨secret, size⟩
  else .error (.configuration "rpc caller context signing key must be exactly 32 bytes")

structure SignedRpcCallerContextPayload where
  version : UInt8
  issuerServiceId : String
  audienceServiceId : String
  tenantId : String
  organizationId : String
  actorId : String
  actorKind : RpcCallerActorKind
  sessionId : Option String
  requestId : String
  traceId : Option String
  idempotencyKey : Option String
  issuedAtUnixSeconds : I64
  expiresAtUnixSeconds : I64
  nonce : String
  deriving DecidableEq

/- base64url, serde_json and the HMAC of the libraries. What is encoded decodes to
itself; decoding may accept more. -/
structure Codec where
  base64urlEncode : List UInt8 → String
  base64urlDecode : String → Option (List UInt8)
  toVec : SignedRpcCallerContextPayload → Except String (List UInt8)
  fromSlice : List UInt8 → Option SignedRpcCallerContextPayload
  hmacSha256Base64url : List UInt8 → List UInt8 → String
  verifyHmacSha256Base64url : List UInt8 → List UInt8 → List UInt8 → Bool
  base64url_round : ∀ bs, base64urlDecode (base64urlEncode bs) = some bs
  json_round : ∀ payload bs, toVec payload = .ok bs → fromSlice bs = some payload

def RpcCallerContextSigningKey.fromBase64url (codec : Codec) (encoded : String) :
    RpcFrameworkResult RpcCallerContextSigningKey :=
  match codec.base64urlDecode encoded with
  | none => .error (.configuration "rpc caller context signing key must be unpadded base64url")
  | some secret => fromSecretBytes secret

/-- An untrusted pair of transport strings, whoever made it. -/
structure SignedRpcCallerContext where
  encodedContext : String
  signature : String
  deriving DecidableEq

def signingInput (encodedContext : String) : String :=
  callerContextSignatureDomain ++ encodedContext

def unixSeconds (value : SystemTime) : RpcFrameworkResult I64 :=
  if value.nanos < 0 then
    .error (.validation "system clock precedes the Unix epoch while issuing rpc caller context")
  else orInvalid (I64.ofInt? (value.nanos / 1000000000))
    "system clock is outside supported rpc caller context range"

def ttlMessage (maxTtl : Duration) : String :=
  "rpc caller context ttl must be between 1 second and " ++ toString maxTtl.asSecs ++ " seconds"

/-! ## Signing -/

structure RpcCallerContextSigner where
  issuerServiceId : String
  signingKey : RpcCallerContextSigningKey
  maxTtl : Duration

def RpcCallerContextSigner.new (issuerServiceId : String)
    (signingKey : RpcCallerContextSigningKey) : RpcFrameworkResult RpcCallerContextSigner := do
  validateIdentifier "issuer_service_id" issuerServiceId
  pure ⟨issuerServiceId, signingKey, maxCallerContextTtl⟩

/- The nonce is drawn at random by the source; here the caller of the model draws it. -/
def RpcCallerContextSigner.signAt (codec : Codec) (signer : RpcCallerContextSigner)
    (context : RpcCallerContext) (ttl : Duration) (now : SystemTime) (nonce : String) :
    RpcFrameworkResult SignedRpcCallerContext := do
  ensure (!(ttl.isZero || ttl.nanos > signer.maxTtl.nanos)) (ttlMessage signer.maxTtl)
  let issuedAt ← unixSeconds now
  let seconds ← orInvalid (I64.ofInt? ttl.asSecs) "rpc caller context ttl is too large"
  let expiresAt ← orInvalid (issuedAt.checkedAdd seconds) "rpc caller context expiry overflow"
  let payload : SignedRpcCallerContextPayload :=
    ⟨callerContextVersion, signer.issuerServiceId, context.audienceServiceId, context.tenantId,
      context.organizationId, context.actorId, context.actorKind, context.sessionId,
      context.requestId, context.traceId, context.idempotencyKey, issuedAt, expiresAt, nonce⟩
  let serialized ← (codec.toVec payload).mapError fun error =>
    .validation ("failed to serialize rpc caller context: " ++ error)
  let encodedContext := codec.base64urlEncode serialized
  pure ⟨encodedContext,
    codec.hmacSha256Base64url (bytes (signingInput encodedContext)) signer.signingKey.asBytes⟩

/-! ## Verification -/

structure VerifiedRpcCallerContext where
  issuerServiceId : String
  audienceServiceId : String
  tenantId : String
  organizationId : String
  actorId : String
  actorKind : RpcCallerActorKind
  sessionId : Option String
  requestId : String
  traceId : Option String
  idempotencyKey : Option String
  issuedAtUnixSeconds : I64
  expiresAtUnixSeconds : I64
  nonce : String
  deriving DecidableEq

/- The trusted keys are the map's entries; an absent issuer has none. -/
structure RpcCallerContextVerifier where
  audienceServiceId : String
  issuerKeys : String → Option RpcCallerContextSigningKey
  maxTtl : Duration
  maxClockSkew : Duration

/- Collecting the entries: every issuer is checked in order, a later key replaces an
earlier one of the same issuer. -/
def collectIssuerKeys : List (String × RpcCallerContextSigningKey) →
    (String → Option RpcCallerContextSigningKey) →
    RpcFrameworkResult (String → Option RpcCallerContextSigningKey)
  | [], keys => .ok keys
  | (serviceId, key) :: rest, keys => do
    let serviceId ← validatedIdentifier "issuer_service_id" serviceId
    collectIssuerKeys rest (Function.update keys serviceId (some key))

def RpcCallerContextVerifier.new (audienceServiceId : String)
    (issuerKeys : List (String × RpcCallerContextSigningKey)) :
    RpcFrameworkResult RpcCallerContextVerifier := do
  validateIdentifier "audience_service_id" audienceServiceId
  let keys ← collectIssuerKeys issuerKeys fun _ => none
  if issuerKeys.isEmpty then
    .error (.configuration "rpc caller context verifier requires at least one trusted issuer key")
  else pure ⟨audienceServiceId, keys, maxCallerContextTtl, Core.maxClockSkew⟩

def validateFields : List (String × Option String) → RpcFrameworkResult Unit
  | [] => .ok ()
  | (_, none) :: rest => validateFields rest
  | (field, some value) :: rest => do
    validateIdentifier field value
    validateFields rest

def validatePayload (payload : SignedRpcCallerContextPayload) (maxTtl : Duration) :
    RpcFrameworkResult Unit := do
  ensure (payload.version == callerContextVersion) "unsupported rpc caller context version"
  validateFields [("issuer_service_id", some payload.issuerServiceId),
    ("audience_service_id", some payload.audienceServiceId), ("tenant_id", some payload.tenantId),
    ("organization_id", some payload.organizationId), ("actor_id", some payload.actorId),
    ("request_id", some payload.requestId), ("nonce", some payload.nonce)]
  ensure (!(payload.actorKind == .user && payload.sessionId.isNone))
    "user rpc caller context requires a session_id"
  validateFields [("session_id", payload.sessionId), ("trace_id", payload.traceId),
    ("idempotency_key", payload.idempotencyKey)]
  let ttl ← orInvalid (payload.expiresAtUnixSeconds.checkedSub payload.issuedAtUnixSeconds)
    "rpc caller context expiry precedes issue time"
  ensure (!(ttl.val ≤ 0 || ttl.toU64?.all fun value => value > maxTtl.asSecs)) (ttlMessage maxTtl)

def validateTimeWindow (payload : SignedRpcCallerContextPayload) (now : SystemTime)
    (maxClockSkew : Duration) : RpcFrameworkResult Unit := do
  let now ← unixSeconds now
  let skew ← orInvalid (I64.ofInt? maxClockSkew.asSecs) "rpc caller context clock skew is too large"
  ensure (!(payload.issuedAtUnixSeconds.val > (now.saturatingAdd skew).val))
    "rpc caller context is issued in the future"
  ensure (!(payload.expiresAtUnixSeconds.val < (now.saturatingSub skew).val))
    "rpc caller context has expired"

def validateMetadataIdempotency (payload : SignedRpcCallerContextPayload)
    (metadataIdempotencyKey : Option String) : RpcFrameworkResult Unit :=
  match payload.idempotencyKey, metadataIdempotencyKey with
  | some expected, some actual =>
    ensure (expected == actual) "rpc caller context idempotency key does not match request metadata"
  | none, none => .ok ()
  | _, _ =>
    .error (.validation "rpc caller context idempotency key does not match request metadata")

def SignedRpcCallerContextPayload.verified (p : SignedRpcCallerContextPayload) :
    VerifiedRpcCallerContext :=
  ⟨p.issuerServiceId, p.audienceServiceId, p.tenantId, p.organizationId, p.actorId, p.actorKind,
    p.sessionId, p.requestId, p.traceId, p.idempotencyKey, p.issuedAtUnixSeconds,
    p.expiresAtUnixSeconds, p.nonce⟩

def RpcCallerContextVerifier.verify (codec : Codec) (verifier : RpcCallerContextVerifier)
    (signed : SignedRpcCallerContext) (peerIdentity : VerifiedRpcServiceIdentity)
    (metadataIdempotencyKey : Option String) (now : SystemTime) :
    RpcFrameworkResult VerifiedRpcCallerContext := do
  ensure (!((bytes signed.encodedContext).length > maxContextMetadataBytes ||
    (bytes signed.signature).length > maxContextMetadataBytes))
    "rpc caller context metadata exceeds maximum size"
  let decoded ← orInvalid (codec.base64urlDecode signed.encodedContext)
    "rpc caller context is not valid base64url"
  let payload ← orInvalid (codec.fromSlice decoded) "rpc caller context has an invalid schema"
  validatePayload payload verifier.maxTtl
  ensure (payload.audienceServiceId == verifier.audienceServiceId)
    "rpc caller context is issued for a different audience service"
  ensure (payload.issuerServiceId == peerIdentity.serviceId)
    "rpc caller context issuer does not match the mTLS peer identity"
  let signingKey ← orInvalid (verifier.issuerKeys payload.issuerServiceId)
    "rpc caller context issuer is not trusted for this listener"
  let signature ← orInvalid (codec.base64urlDecode signed.signature)
    "rpc caller context signature is not valid base64url"
  ensure (codec.verifyHmacSha256Base64url (bytes (signingInput signed.encodedContext))
    signingKey.asBytes signature) "rpc caller context signature is invalid"
  validateTimeWindow payload now verifier.maxClockSkew
  validateMetadataIdempotency payload metadataIdempotencyKey
  pure payload.verified

end SdkworkRpc.Core
