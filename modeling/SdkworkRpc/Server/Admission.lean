import SdkworkRpc.Client.Credential
import SdkworkRpc.Server.Security

/-! A credential issued by a client, written into the metadata of a call and read by the
server of the audience. -/
namespace SdkworkRpc.Server

open Machine Text SdkworkRpc.Core Client

section

variable {t : Tonic} {codec : Codec} {signer : RpcCallerContextSigner} {c : RpcCallerContext}
  {ttl : Duration} {now : SystemTime} {nonce : String} {signed : SignedRpcCallerContext}
  {issuedAt expiresAt : I64}

theorem optionalMetadata_reads {metadata : MetadataMap t} {key : String} {text : Option String}
    (reads : Reads metadata key text) : optionalMetadata metadata key = .ok text := by
  unfold optionalMetadata
  unfold Reads at reads
  cases found : metadata.get key with
  | none =>
    rw [found] at reads
    cases text with
    | none => rfl
    | some text => cases reads
  | some value =>
    rw [found] at reads
    cases text with
    | none => cases reads
    | some text =>
      simp only [Option.map_some, Option.some.injEq] at reads
      simp only [reads, okOr, ok_bind]
      rfl

theorem verifyOptionalCallerContext_reads {security : RpcInternalServiceSecurity}
    {verifier : RpcCallerContextVerifier} {metadata : MetadataMap t}
    {identity : VerifiedRpcServiceIdentity} {later : SystemTime} {key : Option String}
    {v : VerifiedRpcCallerContext} (configured : security.callerContextVerifier = some verifier)
    (context : Reads metadata rpcCallerContextMetadata (some signed.encodedContext))
    (signature : Reads metadata rpcCallerContextSignatureMetadata (some signed.signature))
    (idempotency : Reads metadata "idempotency-key" key)
    (verified : verifier.verify codec signed identity key later = .ok v) :
    security.verifyOptionalCallerContext codec metadata identity later = .ok (some v) := by
  simp only [RpcInternalServiceSecurity.verifyOptionalCallerContext,
    optionalMetadata_reads context, optionalMetadata_reads signature,
    optionalMetadata_reads idempotency, configured, okOr, verified, ok_bind, ok_mapError]
  rfl

theorem built_keyToken (built : c.Built) {text : String} (held : c.idempotencyKey = some text) :
    Token text := by
  have checked := built.idempotency text held
  exact ⟨checked.given, checked.plain⟩

/-- Nothing of a credential issued for a built context is refused: only the key that the
metadata already has can keep it out. -/
theorem issued_decides {names : MetadataNames} {credential : RpcServiceCredential}
    (sameName : names.idempotencyKey = "idempotency-key") (rules : HeaderRules t names)
    (standard : Standard codec) (context : c.Built) (issuer : Identifier signer.issuerServiceId)
    (uuid : SimpleUuid nonce)
    (issued : Issued codec signer c ttl now nonce credential.signedCallerContext issuedAt expiresAt)
    (carried : credential.idempotencyKey = c.idempotencyKey) (initial : MetadataMap t) :
    KeyDecides names credential initial := by
  have plain : (signer.payload c issuedAt expiresAt nonce).Plain :=
    payload_plain context issuer uuid
  have given : ∀ serialized,
      codec.toVec (signer.payload c issuedAt expiresAt nonce) = .ok serialized →
        serialized ≠ [] := by
    intro serialized written
    rw [standard.json _ _ plain written]
    exact List.cons_ne_nil _ _
  obtain ⟨encoded, signature⟩ := issued_tokens standard given issued
  have keyToken : ∀ text, credential.idempotencyKey = some text → Token text := by
    intro text held
    exact built_keyToken context (carried ▸ held)
  have distinct : names.idempotencyKey ≠ rpcCallerContextMetadata ∧
      names.idempotencyKey ≠ rpcCallerContextSignatureMetadata := by
    rw [sameName]
    decide
  exact applyTo_decides rules distinct encoded signature keyToken initial

/- For every context that was built, provider with a lifetime of a second or more, and
metadata the call already has. Where the credential goes in, a server that is its audience
and knows the signer's key returns the context it was issued for, within the window; it
stays out only because of the key that was there. -/
theorem issued_credential_admitted (t : Tonic) (names : MetadataNames)
    (sameName : names.idempotencyKey = "idempotency-key") (rules : HeaderRules t names)
    (codec : Codec) (standard : Standard codec) (builder : RpcCallerContextBuilder)
    (c : RpcCallerContext) (built : builder.build = .ok c) (issuer : String)
    (key : RpcCallerContextSigningKey) (signer : RpcCallerContextSigner)
    (made : RpcCallerContextSigner.new issuer key = .ok signer) (ttl : Duration)
    (least : (Duration.fromSecs 1).nanos ≤ ttl.nanos)
    (provider : SignedRpcServiceCredentialProvider)
    (provided : SignedRpcServiceCredentialProvider.new signer ttl = .ok provider)
    (now : SystemTime) (nonce : String) (uuid : SimpleUuid nonce)
    (credential : RpcServiceCredential)
    (succeeded : provider.issue codec c now nonce = .ok credential) (initial : MetadataMap t) :
    (∀ applied, (credential.applyTo names).run.run initial = (.ok (), applied) →
      ∀ (audience : String) (keys : List (String × RpcCallerContextSigningKey))
        (verifier : RpcCallerContextVerifier) (security : RpcInternalServiceSecurity)
        (identity : VerifiedRpcServiceIdentity) (later : SystemTime) (i n : I64),
        RpcCallerContextVerifier.new audience keys = .ok verifier →
        security.callerContextVerifier = some verifier →
        verifier.audienceServiceId = c.audienceServiceId →
        verifier.issuerKeys issuer = some key → identity.serviceId = issuer →
        unixSeconds now = .ok i → unixSeconds later = .ok n →
        i.val - 30 ≤ n.val → n.val ≤ i.val + ttl.asSecs + 30 →
        ∃ v, security.verifyOptionalCallerContext codec applied identity later = .ok (some v) ∧
          v.callerContext = c ∧ v.issuerServiceId = issuer) ∧
    (∀ e left, (credential.applyTo names).run.run initial = (.error e, left) →
      ∃ value, initial.get "idempotency-key" = some value ∧
        (value.toStr = none ∨ ∃ text, value.toStr = some text ∧ c.idempotencyKey ≠ some text)) := by
  obtain ⟨identifier, rfl⟩ := signer_new_ok made
  cases provider_new_ok provided
  obtain ⟨signs, carried⟩ := issue_ok succeeded
  obtain ⟨issuedAt, expiresAt, issued⟩ := signAt_issued signs
  have context := build_ok built
  have decided := issued_decides sameName rules standard context identifier uuid issued carried
    initial
  constructor
  · intro applied ran audience keys verifier security identity later i n opened configured meant
      trusts presenter issuedSecond read started ended
    rcases decided with ⟨-, _, run, written⟩ | ⟨-, e, run⟩
    · rw [run] at ran
      cases ran
      rw [issued.issued] at issuedSecond
      cases issuedSecond
      rw [← issued.expires] at ended
      have readsKey := written.key
      rw [sameName, carried] at readsKey
      have accepted := (@verify_issued_iff codec _ c ttl now nonce credential.signedCallerContext
        issuedAt expiresAt verifier identity c.idempotencyKey later n standard context identifier
        uuid rfl least issued (verifier_new_ok opened) trusts read _).mpr
        ⟨⟨meant, presenter, rfl, started, ended⟩, rfl⟩
      exact ⟨_, verifyOptionalCallerContext_reads configured written.context written.signature
        readsKey accepted, rfl, rfl⟩
    · rw [run] at ran
      cases ran
  · intro e left ran
    rcases decided with ⟨-, _, run, -⟩ | ⟨disagrees, -⟩
    · rw [run] at ran
      cases ran
    · rw [← sameName, ← carried]
      exact not_keyAgrees disagrees

end

/- The sample exchange over HTTP. The call already carries its key, and another one after. -/
def repeatedKey : MetadataMap http :=
  ⟨fun key => if key = "idempotency-key" then
    ["order-1", "order-2"].filterMap (MetadataValue.tryFrom http) else []⟩

def orderCredential : RpcServiceCredential := ⟨orderSigned, some "order-1"⟩

theorem orderCredential_issued : SignedRpcServiceCredentialProvider.issue tagCodec
    ⟨orderCall.signer, .fromSecs 60⟩ orderContext orderCall.now orderNonce =
      .ok orderCredential := by
  have signs : orderCall.signer.signAt tagCodec orderContext (.fromSecs 60) orderCall.now
    orderNonce = .ok orderSigned := tagCodec_signs
  simp only [SignedRpcServiceCredentialProvider.issue, signs, ok_bind]
  rfl

theorem repeatedKey_agrees : KeyAgrees standardNames repeatedKey (some "order-1") := by
  intro value present
  cases Option.some.inj present
  exact ⟨"order-1", by decide +kernel, rfl⟩

theorem orderCredential_applied : ∃ applied,
    (orderCredential.applyTo standardNames).run.run repeatedKey = (.ok (), applied) := by
  have context := @build_ok orderBuilder orderContext rfl
  obtain ⟨issuer, -⟩ := @signer_new_ok "orders" orderKey orderCall.signer rfl
  obtain ⟨issuedAt, expiresAt, issued⟩ := signAt_issued tagCodec_signs
  rcases @issued_decides http tagCodec _ orderContext _ _ _ issuedAt expiresAt standardNames
    orderCredential rfl http_headerRules tagCodec_standard context issuer orderNonce_uuid issued rfl
    repeatedKey with ⟨-, applied, run, -⟩ | ⟨disagrees, -⟩
  · exact ⟨applied, run⟩
  · exact absurd repeatedKey_agrees disagrees

theorem issued_credential_admitted_order : ∃ verifier applied v,
    RpcCallerContextVerifier.new "billing" [("orders", orderKey)] = .ok verifier ∧
    (orderCredential.applyTo standardNames).run.run repeatedKey = (.ok (), applied) ∧
    (RpcInternalServiceSecurity.mk billingSecurity.serviceIdentityPolicy
      (some verifier)).verifyOptionalCallerContext tagCodec applied ordersIdentity
        ⟨1090 * 1000000000⟩ = .ok (some v) ∧
    v.callerContext = orderContext := by
  obtain ⟨applied, run⟩ := orderCredential_applied
  obtain ⟨v, admitted, carried, -⟩ := (issued_credential_admitted http standardNames rfl
    http_headerRules tagCodec tagCodec_standard orderBuilder orderContext rfl "orders" orderKey
    orderCall.signer rfl (.fromSecs 60) (by decide) _ rfl orderCall.now orderNonce orderNonce_uuid
    orderCredential orderCredential_issued repeatedKey).1 applied run "billing"
    [("orders", orderKey)] _ ⟨billingSecurity.serviceIdentityPolicy, some _⟩ ordersIdentity
    ⟨1090 * 1000000000⟩ ⟨1000, by decide, by decide⟩ ⟨1090, by decide, by decide⟩ rfl rfl rfl rfl
    rfl (by decide) (by decide) (by decide) (by decide)
  exact ⟨_, applied, v, rfl, run, admitted, carried⟩

end SdkworkRpc.Server
