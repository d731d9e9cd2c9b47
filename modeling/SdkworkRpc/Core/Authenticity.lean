import SdkworkRpc.Core.CallerContext
import SdkworkRpc.Library.Base64url

/-! What an accepted caller context proves about who signed it. -/
namespace SdkworkRpc.Core

open Machine Text

/-- One `sign_at` call: the signer and everything it was given. -/
structure SignCall where
  signer : RpcCallerContextSigner
  context : RpcCallerContext
  ttl : Duration
  now : SystemTime
  nonce : String

def SignCall.result (codec : Codec) (call : SignCall) : RpcFrameworkResult SignedRpcCallerContext :=
  call.signer.signAt codec call.context call.ttl call.now call.nonce

def SignCall.Signed (codec : Codec) (call : SignCall) (message : List UInt8) : Prop :=
  ∃ signed, call.result codec = .ok signed ∧ message = bytes (signingInput signed.encodedContext)

/- The HMAC is ideal: a message that verifies under a trusted key was signed by a
signer that holds this key. Nothing keeps two issuers from sharing one. -/
def Unforged (codec : Codec) (calls : List SignCall) (verifier : RpcCallerContextVerifier)
    (presented : SignedRpcCallerContext) : Prop :=
  ∀ issuer key tag, verifier.issuerKeys issuer = some key →
    codec.base64urlDecode presented.signature = some tag →
    codec.verifyHmacSha256Base64url (bytes (signingInput presented.encodedContext)) key.asBytes tag
      = true →
    ∃ call ∈ calls, call.signer.signingKey = key ∧
      call.Signed codec (bytes (signingInput presented.encodedContext))

def VerifiedRpcCallerContext.callerContext (v : VerifiedRpcCallerContext) : RpcCallerContext :=
  ⟨v.tenantId, v.organizationId, v.actorId, v.actorKind, v.sessionId, v.requestId, v.traceId,
    v.idempotencyKey, v.audienceServiceId⟩

theorem signingInput_injective {a b : String}
    (same : bytes (signingInput a) = bytes (signingInput b)) : a = b :=
  append_left_injective (bytes_injective same)

theorem validateMetadataIdempotency_ok {payload : SignedRpcCallerContextPayload}
    {key : Option String} :
    validateMetadataIdempotency payload key = .ok () ↔ key = payload.idempotencyKey := by
  unfold validateMetadataIdempotency
  constructor
  · intro passed
    split at passed
    · rename_i expected actual signed
      rw [signed, eq_of_beq (ensure_ok passed)]
    · rename_i unsigned
      exact unsigned.symm
    · cases passed
  · intro same
    subst same
    cases payload.idempotencyKey with
    | none => rfl
    | some expected => simp only [beq_self_eq_true, ensure_true]

theorem metadata_fits {signed : SignedRpcCallerContext}
    (context : (bytes signed.encodedContext).length ≤ maxContextMetadataBytes)
    (signature : (bytes signed.signature).length ≤ maxContextMetadataBytes) :
    (!((bytes signed.encodedContext).length > maxContextMetadataBytes ||
      (bytes signed.signature).length > maxContextMetadataBytes)) = true := by
  rw [Bool.not_eq_true', Bool.or_eq_false_iff]
  exact ⟨decide_eq_false (Nat.not_lt.mpr context), decide_eq_false (Nat.not_lt.mpr signature)⟩

structure Accepted (codec : Codec) (verifier : RpcCallerContextVerifier)
    (presented : SignedRpcCallerContext) (peer : VerifiedRpcServiceIdentity)
    (metadataKey : Option String) (now : SystemTime) (payload : SignedRpcCallerContextPayload)
    (key : RpcCallerContextSigningKey) (tag : List UInt8) : Prop where
  fits : (!((bytes presented.encodedContext).length > maxContextMetadataBytes ||
    (bytes presented.signature).length > maxContextMetadataBytes)) = true
  decoded : (codec.base64urlDecode presented.encodedContext).bind codec.fromSlice = some payload
  valid : validatePayload payload verifier.maxTtl = .ok ()
  audience : payload.audienceServiceId = verifier.audienceServiceId
  issuer : payload.issuerServiceId = peer.serviceId
  trusted : verifier.issuerKeys payload.issuerServiceId = some key
  signature : codec.base64urlDecode presented.signature = some tag
  authentic : codec.verifyHmacSha256Base64url (bytes (signingInput presented.encodedContext))
    key.asBytes tag = true
  current : validateTimeWindow payload now verifier.maxClockSkew = .ok ()
  idempotency : metadataKey = payload.idempotencyKey

theorem verify_ok {codec : Codec} {verifier : RpcCallerContextVerifier}
    {presented : SignedRpcCallerContext} {peer : VerifiedRpcServiceIdentity}
    {metadataKey : Option String} {now : SystemTime} {v : VerifiedRpcCallerContext}
    (accepted : verifier.verify codec presented peer metadataKey now = .ok v) :
    ∃ payload key tag, v = payload.verified ∧
      Accepted codec verifier presented peer metadataKey now payload key tag := by
  unfold RpcCallerContextVerifier.verify at accepted
  obtain ⟨_, fits, accepted⟩ := bind_ok accepted
  obtain ⟨serialized, decoded, accepted⟩ := bind_ok accepted
  obtain ⟨payload, parsed, accepted⟩ := bind_ok accepted
  obtain ⟨_, valid, accepted⟩ := bind_ok accepted
  obtain ⟨_, audience, accepted⟩ := bind_ok accepted
  obtain ⟨_, issuer, accepted⟩ := bind_ok accepted
  obtain ⟨key, trusted, accepted⟩ := bind_ok accepted
  obtain ⟨tag, signature, accepted⟩ := bind_ok accepted
  obtain ⟨_, authentic, accepted⟩ := bind_ok accepted
  obtain ⟨_, current, accepted⟩ := bind_ok accepted
  obtain ⟨_, idempotency, accepted⟩ := bind_ok accepted
  cases accepted
  refine ⟨payload, key, tag, rfl, ?_⟩
  constructor
  · exact ensure_ok fits
  · rw [orInvalid_ok decoded]
    exact orInvalid_ok parsed
  · exact valid
  · exact eq_of_beq (ensure_ok audience)
  · exact eq_of_beq (ensure_ok issuer)
  · exact orInvalid_ok trusted
  · exact orInvalid_ok signature
  · exact ensure_ok authentic
  · exact current
  · exact validateMetadataIdempotency_ok.mp idempotency

theorem Accepted.verify {codec : Codec} {verifier : RpcCallerContextVerifier}
    {presented : SignedRpcCallerContext} {peer : VerifiedRpcServiceIdentity}
    {metadataKey : Option String} {now : SystemTime} {payload : SignedRpcCallerContextPayload}
    {key : RpcCallerContextSigningKey} {tag : List UInt8}
    (checks : Accepted codec verifier presented peer metadataKey now payload key tag) :
    verifier.verify codec presented peer metadataKey now = .ok payload.verified := by
  obtain ⟨serialized, decoded, parsed⟩ := Option.bind_eq_some_iff.mp checks.decoded
  have audience := beq_iff_eq.mpr checks.audience
  have issuer := beq_iff_eq.mpr checks.issuer
  have idempotency := validateMetadataIdempotency_ok.mpr checks.idempotency
  unfold RpcCallerContextVerifier.verify
  simp only [checks.fits, decoded, parsed, checks.valid, audience, issuer, checks.trusted,
    checks.signature, checks.authentic, checks.current, idempotency, ensure_true, orInvalid_some,
    ok_bind]
  rfl

theorem signAt_decodes {codec : Codec} {call : SignCall} {signed : SignedRpcCallerContext}
    (succeeded : call.result codec = .ok signed) :
    ∃ payload, (codec.base64urlDecode signed.encodedContext).bind codec.fromSlice = some payload ∧
      payload.issuerServiceId = call.signer.issuerServiceId ∧
      payload.verified.callerContext = call.context := by
  unfold SignCall.result RpcCallerContextSigner.signAt at succeeded
  obtain ⟨_, -, succeeded⟩ := bind_ok succeeded
  obtain ⟨issuedAt, -, succeeded⟩ := bind_ok succeeded
  obtain ⟨seconds, -, succeeded⟩ := bind_ok succeeded
  obtain ⟨expiresAt, -, succeeded⟩ := bind_ok succeeded
  obtain ⟨serialized, written, succeeded⟩ := bind_ok succeeded
  cases succeeded
  have parsed := codec.json_round _ _ (mapError_ok written)
  rw [codec.base64url_round]
  exact ⟨_, parsed, rfl, rfl⟩

/- Whatever strings, peer, metadata and time are presented: an accepted context is one
that a signer named like the peer was asked to sign, for this verifier, under the key
the verifier trusts for the peer, and its idempotency key is the request's own. -/
theorem verified_context_was_signed (codec : Codec) (calls : List SignCall)
    (verifier : RpcCallerContextVerifier) (presented : SignedRpcCallerContext)
    (peer : VerifiedRpcServiceIdentity) (metadataKey : Option String) (now : SystemTime)
    (v : VerifiedRpcCallerContext) (ideal : Unforged codec calls verifier presented)
    (accepted : verifier.verify codec presented peer metadataKey now = .ok v) :
    ∃ call ∈ calls,
      (∃ signed, call.result codec = .ok signed ∧
        signed.encodedContext = presented.encodedContext) ∧
      call.signer.issuerServiceId = peer.serviceId ∧
      call.context = v.callerContext ∧
      v.audienceServiceId = verifier.audienceServiceId ∧
      v.issuerServiceId = peer.serviceId ∧
      verifier.issuerKeys peer.serviceId = some call.signer.signingKey ∧
      metadataKey = call.context.idempotencyKey := by
  obtain ⟨payload, key, tag, rfl, checks⟩ := verify_ok accepted
  obtain ⟨call, member, holds, signed, succeeded, message⟩ :=
    ideal _ key tag checks.trusted checks.signature checks.authentic
  have same : presented.encodedContext = signed.encodedContext := signingInput_injective message
  obtain ⟨original, decoded, issuer, context⟩ := signAt_decodes succeeded
  -- The verifier uses what it decoded; the tag covers the encoded text. They agree.
  have agrees : original = payload := by
    rw [← same, checks.decoded] at decoded
    exact (Option.some.inj decoded).symm
  subst agrees
  refine ⟨call, member, ⟨signed, succeeded, same.symm⟩, issuer.symm.trans checks.issuer,
    context.symm, checks.audience, checks.issuer, ?_, ?_⟩
  · rw [holds, ← checks.issuer]
    exact checks.trusted
  · rw [← context]
    exact checks.idempotency

/- An order service asks for one call to a billing service. The JSON text and the tag
are those of serde_json and of HMAC-SHA256 for this payload and this key. -/
def orderNonce : String := "67e5504410b1426f9247bb680e5fe0c8"

def orderContext : RpcCallerContext :=
  ⟨"t1", "o1", "batch", .service, none, "r1", none, some "order-1", "billing"⟩

def orderPayload : SignedRpcCallerContextPayload :=
  ⟨1, "orders", "billing", "t1", "o1", "batch", .service, none, "r1", none, some "order-1",
    ⟨1000, by decide, by decide⟩, ⟨1060, by decide, by decide⟩, orderNonce⟩

def orderJson : List UInt8 :=
  ["\x7b\"version\":1,", "\"issuerServiceId\":\"orders\",", "\"audienceServiceId\":\"billing\",",
    "\"tenantId\":\"t1\",", "\"organizationId\":\"o1\",", "\"actorId\":\"batch\",",
    "\"actorKind\":\"service\",", "\"sessionId\":null,", "\"requestId\":\"r1\",",
    "\"traceId\":null,", "\"idempotencyKey\":\"order-1\",", "\"issuedAtUnixSeconds\":1000,",
    "\"expiresAtUnixSeconds\":1060,",
    "\"nonce\":\"67e5504410b1426f9247bb680e5fe0c8\"\x7d"].flatMap bytes

def orderKey : RpcCallerContextSigningKey := ⟨List.replicate 32 7, rfl⟩

def orderMessage : List UInt8 := bytes (signingInput (Base64url.encode orderJson))

def orderTag : List UInt8 :=
  [80, 4, 159, 7, 249, 151, 46, 44, 192, 125, 111, 91, 132, 198, 21, 216, 199, 116, 172, 173, 221,
    187, 93, 45, 173, 236, 169, 204, 166, 248, 169, 251]

/- base64url in full; of JSON and the HMAC the values that this exchange needs. -/
def orderCodec : Codec where
  base64urlEncode := Base64url.encode
  base64urlDecode := Base64url.decode
  toVec payload := if payload = orderPayload then .ok orderJson else .error "unknown payload"
  fromSlice bs := if bs = orderJson then some orderPayload else none
  hmacSha256Base64url message key :=
    if message = orderMessage ∧ key = orderKey.asBytes then Base64url.encode orderTag else ""
  verifyHmacSha256Base64url message key tag :=
    message = orderMessage ∧ key = orderKey.asBytes ∧ tag = orderTag
  base64url_round := Base64url.decode_encode
  json_round payload bs written := by
    split at written
    · rename_i known
      cases written
      rw [known, if_pos rfl]
    · cases written

def orderCall : SignCall :=
  ⟨⟨"orders", orderKey, maxCallerContextTtl⟩, orderContext, .fromSecs 60,
    ⟨1000 * 1000000000⟩, orderNonce⟩

def orderSigned : SignedRpcCallerContext :=
  ⟨Base64url.encode orderJson, "UASfB_mXLizAfW9bhMYV2Md0rK3du10treypzKb4qfs"⟩

def billing : RpcCallerContextVerifier :=
  ⟨"billing", fun issuer => if issuer = "orders" then some orderKey else none,
    maxCallerContextTtl, maxClockSkew⟩

def ordersPeer : VerifiedRpcServiceIdentity :=
  ⟨"orders", "internal", "spiffe://internal/sdkwork/service/orders",
    "e3b0c44298fc1c149afbf4c8996fb92427ae41e4649b934ca495991b7852b855"⟩

theorem encode_orderTag : Base64url.encode orderTag = orderSigned.signature := by
  decide +kernel

theorem orderCodec_toVec : orderCodec.toVec orderPayload = .ok orderJson := by
  simp only [orderCodec, if_true]

theorem orderCodec_fromSlice : orderCodec.fromSlice orderJson = some orderPayload := by
  simp only [orderCodec, if_true]

theorem orderCodec_tag :
    orderCodec.hmacSha256Base64url orderMessage orderKey.asBytes = orderSigned.signature := by
  simp only [orderCodec, and_self, if_true, encode_orderTag]

theorem orderCodec_verifies :
    orderCodec.verifyHmacSha256Base64url orderMessage orderKey.asBytes orderTag = true := by
  simp only [orderCodec, and_self, decide_true]

theorem orderCall_signed {codec : Codec} (encodes : codec.base64urlEncode = Base64url.encode)
    (writes : codec.toVec orderPayload = .ok orderJson)
    (tags : codec.hmacSha256Base64url orderMessage orderKey.asBytes = orderSigned.signature) :
    orderCall.result codec = .ok orderSigned := by
  have allowed : (!(orderCall.ttl.isZero || orderCall.ttl.nanos > orderCall.signer.maxTtl.nanos)) =
      true := by decide
  have issued : unixSeconds orderCall.now = .ok orderPayload.issuedAtUnixSeconds := by decide
  have seconds : I64.ofInt? orderCall.ttl.asSecs = some ⟨60, by decide, by decide⟩ := by decide
  have expires : orderPayload.issuedAtUnixSeconds.checkedAdd ⟨60, by decide, by decide⟩ =
      some orderPayload.expiresAtUnixSeconds := by decide
  simp only [SignCall.result, RpcCallerContextSigner.signAt, allowed, issued, seconds, expires,
    ensure_true, orInvalid_some, ok_bind, encodes]
  change ((codec.toVec orderPayload).mapError _ >>= _) = _
  rw [writes, ok_mapError, ok_bind]
  exact congrArg (fun tag => Except.ok (SignedRpcCallerContext.mk _ tag)) tags

theorem orderCall_result : orderCall.result orderCodec = .ok orderSigned :=
  orderCall_signed rfl orderCodec_toVec orderCodec_tag

theorem orderSigned_accepted : Accepted orderCodec billing orderSigned ordersPeer (some "order-1")
    ⟨1050 * 1000000000⟩ orderPayload orderKey orderTag := by
  have context : (bytes orderSigned.encodedContext).length ≤ maxContextMetadataBytes := by
    rw [orderSigned, Base64url.bytes_encode_length]
    decide +kernel
  have signature : (bytes orderSigned.signature).length ≤ maxContextMetadataBytes := by
    rw [← encode_orderTag, Base64url.bytes_encode_length]
    decide
  constructor
  · exact metadata_fits context signature
  · exact Option.bind_eq_some_iff.mpr
      ⟨orderJson, orderCodec.base64url_round orderJson, orderCodec_fromSlice⟩
  · decide
  · rfl
  · rfl
  · rfl
  · rw [← encode_orderTag]
    exact orderCodec.base64url_round orderTag
  · exact orderCodec_verifies
  · decide
  · rfl

theorem verified_context_was_signed_order : ∃ v,
    billing.verify orderCodec orderSigned ordersPeer (some "order-1") ⟨1050 * 1000000000⟩ = .ok v ∧
    ∃ call ∈ [orderCall], call.signer.issuerServiceId = "orders" ∧
      call.context = v.callerContext := by
  have ideal : Unforged orderCodec [orderCall] billing orderSigned := by
    intro issuer key tag trusted _ _
    refine ⟨orderCall, List.mem_singleton_self _, ?_, orderSigned, orderCall_result, rfl⟩
    simp only [billing] at trusted
    split at trusted
    · exact Option.some.inj trusted
    · cases trusted
  obtain ⟨call, member, _, issuer, context, _⟩ :=
    verified_context_was_signed orderCodec [orderCall] billing orderSigned ordersPeer
      (some "order-1") ⟨1050 * 1000000000⟩ orderPayload.verified ideal
      orderSigned_accepted.verify
  exact ⟨_, orderSigned_accepted.verify, call, member, issuer, context⟩

end SdkworkRpc.Core
