import SdkworkRpc.Core.RoundTrip

/-! For how long a signed context can be presented again. The issue and expiry times are
whatever the payload says, up to the limits of their type. -/
namespace SdkworkRpc.Core

open Machine Text

structure Timeless (codec : Codec) (verifier : RpcCallerContextVerifier)
    (presented : SignedRpcCallerContext) (peer : VerifiedRpcServiceIdentity)
    (metadataKey : Option String) (payload : SignedRpcCallerContextPayload)
    (key : RpcCallerContextSigningKey) (tag : List UInt8) : Prop where
  fits : (!((bytes presented.encodedContext).length > maxContextMetadataBytes ||
    (bytes presented.signature).length > maxContextMetadataBytes)) = true
  decoded : (codec.base64urlDecode presented.encodedContext).bind codec.fromSlice = some payload
  valid : validatePayload payload verifier.maxTtl = .ok ()
  audience : payload.audienceServiceId = verifier.audienceServiceId
  issuer : payload.issuerServiceId = peer.serviceId
  trusted : verifier.issuerKeys payload.issuerServiceId = some key
  signature : codec.base64urlDecode presented.signature = some tag
  authentic : codec.verifyHmacSha256Base64url (bytes (signingInput presented.encodedContext))
    key.asBytes tag = true
  idempotency : metadataKey = payload.idempotencyKey

section

variable {codec : Codec} {verifier : RpcCallerContextVerifier} {presented : SignedRpcCallerContext}
  {peer peer' : VerifiedRpcServiceIdentity} {metadataKey metadataKey' : Option String}
  {now now' : SystemTime} {payload : SignedRpcCallerContextPayload}
  {key : RpcCallerContextSigningKey} {tag : List UInt8}

theorem accepted_timeless :
    Accepted codec verifier presented peer metadataKey now payload key tag ↔
      Timeless codec verifier presented peer metadataKey payload key tag ∧
        validateTimeWindow payload now verifier.maxClockSkew = .ok () := by
  constructor
  · intro checks
    exact ⟨⟨checks.fits, checks.decoded, checks.valid, checks.audience, checks.issuer,
      checks.trusted, checks.signature, checks.authentic, checks.idempotency⟩, checks.current⟩
  · rintro ⟨checks, current⟩
    exact ⟨checks.fits, checks.decoded, checks.valid, checks.audience, checks.issuer,
      checks.trusted, checks.signature, checks.authentic, current, checks.idempotency⟩

/-- Whatever else changes, the payload is the one the text decodes to, so a context that
passes the other checks is accepted exactly inside its window. -/
theorem verify_window (skew : verifier.maxClockSkew = maxClockSkew)
    (checks : Timeless codec verifier presented peer metadataKey payload key tag) {n : I64}
    (read : unixSeconds now = .ok n) :
    (∃ v, verifier.verify codec presented peer metadataKey now = .ok v) ↔
      payload.issuedAtUnixSeconds.val - 30 ≤ n.val ∧
        n.val ≤ payload.expiresAtUnixSeconds.val + 30 := by
  rw [← validateTimeWindow_ok read, ← skew]
  constructor
  · rintro ⟨v, accepted⟩
    obtain ⟨payload', key', tag', -, accepted⟩ := verify_ok accepted
    have same := Option.some.inj (accepted.decoded.symm.trans checks.decoded)
    rw [← same]
    exact accepted.current
  · intro current
    exact ⟨_, (accepted_timeless.mpr ⟨checks, current⟩).verify⟩

theorem acceptances_close (limit : verifier.maxTtl = maxCallerContextTtl)
    (skew : verifier.maxClockSkew = maxClockSkew) {n n' : I64} {v v' : VerifiedRpcCallerContext}
    (read : unixSeconds now = .ok n) (read' : unixSeconds now' = .ok n')
    (accepted : verifier.verify codec presented peer metadataKey now = .ok v)
    (accepted' : verifier.verify codec presented peer' metadataKey' now' = .ok v') :
    (n.val - n'.val).natAbs ≤ 360 := by
  obtain ⟨payload, key, tag, -, first⟩ := verify_ok accepted
  obtain ⟨payload', key', tag', -, second⟩ := verify_ok accepted'
  cases Option.some.inj (first.decoded.symm.trans second.decoded)
  have lifetime := (validatePayload_ok.mp (limit ▸ first.valid)).2
  have window := (validateTimeWindow_ok read).mp (skew ▸ first.current)
  have window' := (validateTimeWindow_ok read').mp (skew ▸ second.current)
  omega

end

/- Over all texts, whoever made them, and all peers, keys of the request and times. The
bounds are those of unbounded integers: no overflow and no saturation decides a verdict. -/
theorem replay_window (codec : Codec) (audience : String)
    (keys : List (String × RpcCallerContextSigningKey)) (verifier : RpcCallerContextVerifier)
    (opened : RpcCallerContextVerifier.new audience keys = .ok verifier)
    (presented : SignedRpcCallerContext) :
    (∀ peer peer' metadataKey metadataKey' now now' n n' v v', unixSeconds now = .ok n →
      unixSeconds now' = .ok n' →
      verifier.verify codec presented peer metadataKey now = .ok v →
      verifier.verify codec presented peer' metadataKey' now' = .ok v' →
      (n.val - n'.val).natAbs ≤ 360) ∧
    (∀ peer metadataKey payload key tag,
      Timeless codec verifier presented peer metadataKey payload key tag →
      ∀ now n, unixSeconds now = .ok n →
        ((∃ v, verifier.verify codec presented peer metadataKey now = .ok v) ↔
          payload.issuedAtUnixSeconds.val - 30 ≤ n.val ∧
            n.val ≤ payload.expiresAtUnixSeconds.val + 30)) ∧
    ∀ payload, validatePayload payload verifier.maxTtl = .ok () ↔
      payload.Acceptable ∧
        0 < payload.expiresAtUnixSeconds.val - payload.issuedAtUnixSeconds.val ∧
        payload.expiresAtUnixSeconds.val - payload.issuedAtUnixSeconds.val ≤ 300 := by
  obtain ⟨limit, skew⟩ := verifier_new_ok opened
  refine ⟨?_, ?_, ?_⟩
  · intro peer peer' metadataKey metadataKey' now now' n n' v v' read read' accepted accepted'
    exact acceptances_close limit skew read read' accepted accepted'
  · intro peer metadataKey payload key tag checks now n read
    exact verify_window skew checks read
  · intro payload
    rw [limit]
    exact validatePayload_ok

theorem billing_new :
    RpcCallerContextVerifier.new "billing" [("orders", orderKey)] = .ok billing := by
  have keys : Function.update (fun _ => none) "orders" (some orderKey) = billing.issuerKeys := by
    funext issuer
    simp only [Function.update_apply, billing]
  change _ = Except.ok (RpcCallerContextVerifier.mk "billing" billing.issuerKeys _ _)
  rw [← keys]
  rfl

theorem replay_window_of_order :
    (∃ v, billing.verify orderCodec orderSigned ordersPeer (some "order-1")
      ⟨1050 * 1000000000⟩ = .ok v) ∧
    ∀ later n v, unixSeconds later = .ok n →
      billing.verify orderCodec orderSigned ordersPeer (some "order-1") later = .ok v →
      690 ≤ n.val ∧ n.val ≤ 1410 := by
  refine ⟨⟨_, orderSigned_accepted.verify⟩, fun later n v read accepted => ?_⟩
  have close := (replay_window orderCodec "billing" [("orders", orderKey)] billing billing_new
    orderSigned).1 ordersPeer ordersPeer (some "order-1") (some "order-1")
      ⟨1050 * 1000000000⟩ later ⟨1050, by decide, by decide⟩ n _ v (by decide) read
      orderSigned_accepted.verify accepted
  simp only at close
  omega

end SdkworkRpc.Core
