import SdkworkRpc.Core.ReplayWindow
import SdkworkRpc.Server.RepeatedHeaders
import SdkworkRpc.Library.Run
import Mathlib.Data.List.Nodup

/-! Signed caller contexts in a mesh of services. Any signer signs at any time; the network
delivers to any server whatever headers it likes, over any connection, in any order and as
often as it likes. Only a tag that verifies has to come from a call made before. -/
namespace SdkworkRpc.Server.Mesh

open Machine Run Text SdkworkRpc.Core Client

variable {σ : Type} {t : Tonic}

/-- A handler ran with this identity and this context; the rest is what it came from. -/
structure Handled (σ : Type) (t : Tonic) where
  server : σ
  metadata : MetadataMap t
  now : SystemTime
  identity : VerifiedRpcServiceIdentity
  context : VerifiedRpcCallerContext

inductive Event (σ : Type) (t : Tonic) where
  | signed (call : SignCall)
  | handled (event : Handled σ t)

inductive Move (σ : Type) (t : Tonic) where
  | sign (call : SignCall)
  | deliver (server : σ) (peerCerts : Option (List (List UInt8))) (metadata : MetadataMap t)
      (now : SystemTime)

def calls : List (Event σ t) → List SignCall
  | [] => []
  | .signed call :: h => call :: calls h
  | .handled _ :: h => calls h

/- What a method behind the interceptor has that requires both the identity and the context.
A request comes from the network without extensions. -/
def given (x509 : X509) (codec : Codec) (security : RpcInternalServiceSecurity)
    (peerCerts : Option (List (List UInt8))) (metadata : MetadataMap t) (now : SystemTime) :
    Except Status (VerifiedRpcServiceIdentity × VerifiedRpcCallerContext) := do
  let handed ← security.interceptor.call x509 codec now ⟨peerCerts, metadata, ⟨none, none⟩⟩
  let identity ← requireVerifiedRpcServiceIdentity handed
  let context ← requireVerifiedRpcCallerContext handed
  pure (identity, context)

/-- A refused signature or request leaves no trace. -/
def step (x509 : X509) (codec : Codec) (mesh : σ → RpcInternalServiceSecurity)
    (h : List (Event σ t)) : Move σ t → Option (List (Event σ t))
  | .sign call =>
    match call.result codec with
    | .ok _ => some (.signed call :: h)
    | .error _ => some h
  | .deliver server peerCerts metadata now =>
    match given x509 codec (mesh server) peerCerts metadata now with
    | .ok (identity, context) => some (.handled ⟨server, metadata, now, identity, context⟩ :: h)
    | .error _ => some h

/-- No tag is forged: the pair a server reads was signed earlier in this run, if its tag
verifies at all under a key that the server trusts. -/
def Ideal (codec : Codec) (mesh : σ → RpcInternalServiceSecurity) (h : List (Event σ t)) :
    Move σ t → Prop
  | .sign _ => True
  | .deliver server _ metadata _ => ∀ verifier presented,
      (mesh server).callerContextVerifier = some verifier →
      optionalMetadata metadata rpcCallerContextMetadata = .ok (some presented.encodedContext) →
      optionalMetadata metadata rpcCallerContextSignatureMetadata = .ok (some presented.signature) →
      Unforged codec (calls h) verifier presented

/-- The call that a handled context goes back to. The signer is named like the peer and holds
the key that the server trusts for it, the server is the audience, the request has the key that
was signed, and the context is the signed one to the nonce and the second. -/
structure Grounds (codec : Codec) (mesh : σ → RpcInternalServiceSecurity) (event : Handled σ t)
    (call : SignCall) : Prop where
  succeeded : ∃ signed, call.result codec = .ok signed
  issuer : call.signer.issuerServiceId = event.identity.serviceId
  trusted : ∃ verifier, (mesh event.server).callerContextVerifier = some verifier ∧
    verifier.audienceServiceId = call.context.audienceServiceId ∧
    verifier.issuerKeys event.identity.serviceId = some call.signer.signingKey
  allowed : (mesh event.server).serviceIdentityPolicy.allows event.identity.serviceId = true
  idempotency : optionalMetadata event.metadata "idempotency-key" = .ok call.context.idempotencyKey
  context : event.context = (call.signer.payload call.context event.context.issuedAtUnixSeconds
    event.context.expiresAtUnixSeconds call.nonce).verified
  issued : unixSeconds call.now = .ok event.context.issuedAtUnixSeconds
  expires : event.context.expiresAtUnixSeconds.val =
    event.context.issuedAtUnixSeconds.val + call.ttl.asSecs
  lifetime : event.context.expiresAtUnixSeconds.val ≤ event.context.issuedAtUnixSeconds.val + 300
  window : ∃ n, unixSeconds event.now = .ok n ∧
    event.context.issuedAtUnixSeconds.val - 30 ≤ n.val ∧
    n.val ≤ event.context.expiresAtUnixSeconds.val + 30

def Grounded (codec : Codec) (mesh : σ → RpcInternalServiceSecurity) : List (Event σ t) → Prop
  | [] => True
  | .signed _ :: h => Grounded codec mesh h
  | .handled event :: h => (∃ call ∈ calls h, Grounds codec mesh event call) ∧ Grounded codec mesh h

section

variable {x509 : X509} {codec : Codec} {security : RpcInternalServiceSecurity}
  {metadata : MetadataMap t}

/-- The pair that was verified is the one the headers hold. -/
theorem verified_pair {identity : VerifiedRpcServiceIdentity} {now : SystemTime}
    {v : VerifiedRpcCallerContext}
    (passed : security.verifyOptionalCallerContext codec metadata identity now = .ok (some v)) :
    ∃ verifier presented key, security.callerContextVerifier = some verifier ∧
      optionalMetadata metadata rpcCallerContextMetadata = .ok (some presented.encodedContext) ∧
      optionalMetadata metadata rpcCallerContextSignatureMetadata =
        .ok (some presented.signature) ∧
      optionalMetadata metadata "idempotency-key" = .ok key ∧
      verifier.verify codec presented identity key now = .ok v := by
  unfold RpcInternalServiceSecurity.verifyOptionalCallerContext at passed
  obtain ⟨encoded, readContext, passed⟩ := bind_ok passed
  obtain ⟨signature, readSignature, passed⟩ := bind_ok passed
  cases encoded with
  | none => cases signature <;> cases passed
  | some encoded =>
    cases signature with
    | none => cases passed
    | some signature =>
      obtain ⟨verifier, configured, passed⟩ := bind_ok passed
      obtain ⟨key, read, passed⟩ := bind_ok passed
      obtain ⟨v, verified, passed⟩ := bind_ok passed
      cases passed
      exact ⟨verifier, ⟨encoded, signature⟩, key, okOr_ok configured, readContext, readSignature,
        read, mapError_ok verified⟩

theorem given_ok {peerCerts : Option (List (List UInt8))} {now : SystemTime}
    {identity : VerifiedRpcServiceIdentity} {v : VerifiedRpcCallerContext}
    (passed : given x509 codec security peerCerts metadata now = .ok (identity, v)) :
    certificateIdentity x509 security.serviceIdentityPolicy peerCerts = some identity ∧
      security.verifyOptionalCallerContext codec metadata identity now = .ok (some v) := by
  unfold given at passed
  obtain ⟨handed, called, passed⟩ := bind_ok passed
  obtain ⟨found, required, passed⟩ := bind_ok passed
  obtain ⟨context, carried, passed⟩ := bind_ok passed
  cases passed
  unfold RpcInternalServiceInterceptor.call RpcInternalServiceSecurity.interceptor at called
  rw [outcome_checks] at called
  cases checked : security.checks x509 codec now peerCerts metadata with
  | error status =>
    simp only [checked] at called
    cases called
  | ok result =>
    simp only [checked] at called
    cases called
    obtain ⟨derived, -, verified⟩ := checks_ok checked
    -- A fresh request has no context of its own to fall back on.
    have own : result.2 = some v := by
      simpa only [Extensions.inject, Option.or_none] using okOr_ok carried
    cases Option.some.inj (okOr_ok required)
    rw [own] at verified
    exact ⟨derived, verified⟩

theorem given_of_checks {peerCerts : Option (List (List UInt8))} {now : SystemTime}
    {identity : VerifiedRpcServiceIdentity} {v : VerifiedRpcCallerContext}
    (passed : security.checks x509 codec now peerCerts metadata = .ok (identity, some v)) :
    given x509 codec security peerCerts metadata now = .ok (identity, v) := by
  unfold given RpcInternalServiceInterceptor.call RpcInternalServiceSecurity.interceptor
  rw [outcome_checks]
  simp only [passed]
  rfl

variable {mesh : σ → RpcInternalServiceSecurity}

theorem deliver_step {server : σ} {peerCerts : Option (List (List UInt8))} {now : SystemTime}
    {identity : VerifiedRpcServiceIdentity} {v : VerifiedRpcCallerContext}
    (passed : given x509 codec (mesh server) peerCerts metadata now = .ok (identity, v))
    (h : List (Event σ t)) :
    step x509 codec mesh h (.deliver server peerCerts metadata now) =
      some (.handled ⟨server, metadata, now, identity, v⟩ :: h) := by
  simp only [step, passed]

def Opened (mesh : σ → RpcInternalServiceSecurity) : Prop :=
  ∀ server verifier, (mesh server).callerContextVerifier = some verifier →
    ∃ audience keys, RpcCallerContextVerifier.new audience keys = .ok verifier

/-- The call that an accepted pair was signed by. Text and payload agree because the tag covers
the text and the text decodes to one payload. -/
theorem accepted_call {made : List SignCall} {verifier : RpcCallerContextVerifier}
    {presented : SignedRpcCallerContext} {peer : VerifiedRpcServiceIdentity}
    {key : Option String} {now : SystemTime} {payload : SignedRpcCallerContextPayload}
    {trustedKey : RpcCallerContextSigningKey} {tag : List UInt8}
    (ideal : Unforged codec made verifier presented)
    (checks : Accepted codec verifier presented peer key now payload trustedKey tag) :
    ∃ call ∈ made, ∃ signed, call.result codec = .ok signed ∧
      call.signer.signingKey = trustedKey ∧
      unixSeconds call.now = .ok payload.issuedAtUnixSeconds ∧
      payload.expiresAtUnixSeconds.val = payload.issuedAtUnixSeconds.val + call.ttl.asSecs ∧
      payload = call.signer.payload call.context payload.issuedAtUnixSeconds
        payload.expiresAtUnixSeconds call.nonce := by
  obtain ⟨call, member, holds, signed, succeeded, message⟩ :=
    ideal _ trustedKey tag checks.trusted checks.signature checks.authentic
  obtain ⟨issuedAt, expiresAt, issued⟩ := signAt_issued succeeded
  have decoded := checks.decoded
  rw [signingInput_injective message, issued_decodes issued] at decoded
  cases decoded
  exact ⟨call, member, signed, succeeded, holds, issued.issued, issued.expires, rfl⟩

theorem handled_grounds {h : List (Event σ t)} (opened : Opened mesh) {server : σ}
    {peerCerts : Option (List (List UInt8))} {now : SystemTime}
    {identity : VerifiedRpcServiceIdentity} {v : VerifiedRpcCallerContext}
    (ideal : Ideal codec mesh h (.deliver server peerCerts metadata now))
    (passed : given x509 codec (mesh server) peerCerts metadata now = .ok (identity, v)) :
    ∃ call ∈ calls h, Grounds codec mesh ⟨server, metadata, now, identity, v⟩ call := by
  obtain ⟨derived, verified⟩ := given_ok passed
  obtain ⟨verifier, presented, key, configured, readContext, readSignature, readKey, accepted⟩ :=
    verified_pair verified
  obtain ⟨payload, trustedKey, tag, rfl, checks⟩ := verify_ok accepted
  obtain ⟨call, member, signed, succeeded, holds, issued, expires, same⟩ :=
    accepted_call (ideal verifier presented configured readContext readSignature) checks
  obtain ⟨audience, keys, new⟩ := opened server verifier configured
  obtain ⟨limit, skew⟩ := verifier_new_ok new
  have lifetime := (validatePayload_ok.mp (limit ▸ checks.valid)).2
  obtain ⟨n, read, -⟩ := bind_ok checks.current
  have current := (validateTimeWindow_ok read).mp (skew ▸ checks.current)
  have issuer : payload.issuerServiceId = call.signer.issuerServiceId :=
    congrArg SignedRpcCallerContextPayload.issuerServiceId same
  have meant : payload.audienceServiceId = call.context.audienceServiceId :=
    congrArg SignedRpcCallerContextPayload.audienceServiceId same
  have bound : payload.idempotencyKey = call.context.idempotencyKey :=
    congrArg SignedRpcCallerContextPayload.idempotencyKey same
  refine ⟨call, member, ?_⟩
  constructor
  · exact ⟨signed, succeeded⟩
  · exact issuer.symm.trans checks.issuer
  · refine ⟨verifier, configured, checks.audience.symm.trans meant, ?_⟩
    rw [holds, ← checks.issuer]
    exact checks.trusted
  · exact certificateIdentity_allowed derived
  · rw [readKey, checks.idempotency, bound]
  · exact congrArg SignedRpcCallerContextPayload.verified same
  · exact issued
  · exact expires
  · simp only [SignedRpcCallerContextPayload.verified]
    omega
  · exact ⟨n, read, current⟩

theorem grounded_step (opened : Opened mesh) (h : List (Event σ t)) (move : Move σ t)
    (next : List (Event σ t)) (held : Grounded codec mesh h) (ideal : Ideal codec mesh h move)
    (taken : step x509 codec mesh h move = some next) : Grounded codec mesh next := by
  cases move with
  | sign call =>
    simp only [step] at taken
    split at taken <;> cases taken <;> exact held
  | deliver server peerCerts metadata now =>
    simp only [step] at taken
    split at taken
    · rename_i identity v passed
      cases taken
      exact ⟨handled_grounds opened ideal passed, held⟩
    · cases taken
      exact held

end

/-! ## One call, handled again -/

section

variable {codec : Codec} {mesh : σ → RpcInternalServiceSecurity}

theorem Grounded.call {h : List (Event σ t)} (held : Grounded codec mesh h) {event : Handled σ t}
    (member : .handled event ∈ h) : ∃ call ∈ calls h, Grounds codec mesh event call := by
  induction h with
  | nil => cases member
  | cons e h ih =>
    cases e with
    | signed call =>
      obtain ⟨found, earlier, grounds⟩ := ih held (by simpa using member)
      exact ⟨found, List.mem_cons_of_mem _ earlier, grounds⟩
    | handled other =>
      rcases List.mem_cons.mp member with same | earlier
      · cases same
        exact held.1
      · exact ih held.2 earlier

theorem seconds_eq {a b : I64} (same : a.val = b.val) : a = b := by
  cases a
  cases b
  cases same
  rfl

theorem Grounds.agree {event event' : Handled σ t} {call : SignCall}
    (first : Grounds codec mesh event call) (second : Grounds codec mesh event' call) :
    event.context = event'.context ∧ event.identity.serviceId = event'.identity.serviceId := by
  have issued : event.context.issuedAtUnixSeconds = event'.context.issuedAtUnixSeconds :=
    Except.ok.inj (first.issued.symm.trans second.issued)
  have expires : event.context.expiresAtUnixSeconds = event'.context.expiresAtUnixSeconds := by
    apply seconds_eq
    rw [first.expires, second.expires, issued]
  refine ⟨?_, first.issuer.symm.trans second.issuer⟩
  rw [first.context, second.context, issued, expires]

theorem Grounds.close {event event' : Handled σ t} {call : SignCall}
    (first : Grounds codec mesh event call) (second : Grounds codec mesh event' call) {n n' : I64}
    (read : unixSeconds event.now = .ok n) (read' : unixSeconds event'.now = .ok n') :
    (n.val - n'.val).natAbs ≤ 360 := by
  obtain ⟨m, reads, start, stop⟩ := first.window
  obtain ⟨m', reads', start', stop'⟩ := second.window
  cases Except.ok.inj (read.symm.trans reads)
  cases Except.ok.inj (read'.symm.trans reads')
  have lifetime := first.lifetime
  rw [← (first.agree second).1] at start' stop'
  omega

end

/- The order service signs one call and the network delivers it twice. -/
def exchangeDelivered (now : SystemTime) : Move Unit http :=
  .deliver () (some [ordersLeaf]) (exchangeRequest [] []).metadata now

def exchangeHandled (now : SystemTime) : Handled Unit http :=
  ⟨(), (exchangeRequest [] []).metadata, now, ordersIdentity, orderPayload.verified⟩

def billingMesh : Unit → RpcInternalServiceSecurity := fun _ => billingSecurity

theorem order_unforged {made : List SignCall} (member : orderCall ∈ made)
    (presented : SignedRpcCallerContext) : Unforged orderCodec made billing presented := by
  intro issuer key tag trusted _ verifies
  have same : bytes (signingInput presented.encodedContext) = orderMessage :=
    (of_decide_eq_true verifies).1
  refine ⟨orderCall, member, ?_, orderSigned, orderCall_result, same⟩
  simp only [billing] at trusted
  split at trusted
  · exact Option.some.inj trusted
  · cases trusted

theorem exchange_step (h : List (Event Unit http)) {now : SystemTime}
    (current : validateTimeWindow orderPayload now billing.maxClockSkew = .ok ()) :
    step ordersX509 orderCodec billingMesh h (exchangeDelivered now) =
      some (.handled (exchangeHandled now) :: h) := by
  have passed : given ordersX509 orderCodec (billingMesh ()) (some [ordersLeaf])
      (exchangeRequest [] []).metadata now = .ok (ordersIdentity, orderPayload.verified) :=
    given_of_checks (exchange_checks [] [] current)
  exact deliver_step passed h

theorem sign_step (h : List (Event Unit http)) :
    step ordersX509 orderCodec billingMesh h (.sign orderCall) = some (.signed orderCall :: h) := by
  simp only [step, orderCall_result]

theorem exchange_ideal {h : List (Event Unit http)} (member : orderCall ∈ calls h)
    (now : SystemTime) : Ideal orderCodec billingMesh h (exchangeDelivered now) := by
  rintro verifier presented ⟨⟩ - -
  exact order_unforged member presented

def firstArrival : SystemTime := ⟨1050 * 1000000000⟩
def secondArrival : SystemTime := ⟨1080 * 1000000000⟩

end SdkworkRpc.Server.Mesh
