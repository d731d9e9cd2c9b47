import SdkworkRpc.Server.Admission

/-! The two ways to assemble the metadata of an internal call: the call's own fields and
then the credential, or the credential and then the fields. Both write the idempotency key. -/
namespace SdkworkRpc.Server

open Machine Text SdkworkUtils SdkworkRpc.Core Client

def metadataFirst [SdkworkUtils] {t : Tonic} (names : MetadataNames) (m : RpcCallMetadata)
    (credential : RpcServiceCredential) (initial : MetadataMap t) :
    RpcFrameworkResult (MetadataMap t) :=
  match (credential.applyTo names).run.run (m.applyTo names initial) with
  | (.ok (), assembled) => .ok assembled
  | (.error error, _) => .error error

def credentialFirst [SdkworkUtils] {t : Tonic} (names : MetadataNames) (m : RpcCallMetadata)
    (credential : RpcServiceCredential) (initial : MetadataMap t) :
    RpcFrameworkResult (MetadataMap t) :=
  match (credential.applyTo names).run.run initial with
  | (.ok (), signed) => .ok (m.applyTo names signed)
  | (.error error, _) => .error error

/-- The text that `insert_optional` puts on the wire: none where it drops the field. -/
def onWire [SdkworkUtils] (t : Tonic) : Option String → Option String
  | none => none
  | some value =>
    if !isBlank (some value) && (bytes value).all t.headerByte then some value else none

/- None of the other fields of a call is sent under a name that the credential uses. -/
structure SeparateNames (t : Tonic) (names : MetadataNames) : Prop where
  fields : ∀ name ∈ [names.authorization, names.accessToken, names.requestId, names.traceparent,
      names.requestHash],
    t.metadataKey name ≠ some rpcCallerContextMetadata ∧
      t.metadataKey name ≠ some rpcCallerContextSignatureMetadata ∧
      t.metadataKey name ≠ some names.idempotencyKey

theorem standardNames_separate : SeparateNames http standardNames :=
  ⟨by decide⟩

/-- A credential as its provider issued it for a context that was built, and a server that is
its audience, knows the signer's key and reads the call within the window. -/
structure Exchange where
  codec : Codec
  standard : Standard codec
  builder : RpcCallerContextBuilder
  context : RpcCallerContext
  built : builder.build = .ok context
  issuer : String
  key : RpcCallerContextSigningKey
  signer : RpcCallerContextSigner
  made : RpcCallerContextSigner.new issuer key = .ok signer
  ttl : Duration
  least : (Duration.fromSecs 1).nanos ≤ ttl.nanos
  provider : SignedRpcServiceCredentialProvider
  provided : SignedRpcServiceCredentialProvider.new signer ttl = .ok provider
  now : SystemTime
  nonce : String
  uuid : SimpleUuid nonce
  credential : RpcServiceCredential
  succeeded : provider.issue codec context now nonce = .ok credential
  audience : String
  keys : List (String × RpcCallerContextSigningKey)
  verifier : RpcCallerContextVerifier
  opened : RpcCallerContextVerifier.new audience keys = .ok verifier
  meant : verifier.audienceServiceId = context.audienceServiceId
  trusts : verifier.issuerKeys issuer = some key
  security : RpcInternalServiceSecurity
  configured : security.callerContextVerifier = some verifier
  identity : VerifiedRpcServiceIdentity
  presenter : identity.serviceId = issuer
  later : SystemTime
  issuedSecond : I64
  readSecond : I64
  issuedRead : unixSeconds now = .ok issuedSecond
  laterRead : unixSeconds later = .ok readSecond
  started : issuedSecond.val - 30 ≤ readSecond.val
  ended : readSecond.val ≤ issuedSecond.val + ttl.asSecs + 30

def Exchange.Admits {t : Tonic} (x : Exchange) : RpcFrameworkResult (MetadataMap t) → Prop
  | .error _ => False
  | .ok metadata => ∃ v,
    x.security.verifyOptionalCallerContext x.codec metadata x.identity x.later = .ok (some v) ∧
      v.callerContext = x.context

section

variable {t : Tonic} {names : MetadataNames}

/-! ## What the server makes of it -/

theorem verifyOptionalCallerContext_signed {codec : Codec} {signed : SignedRpcCallerContext}
    {security : RpcInternalServiceSecurity} {verifier : RpcCallerContextVerifier}
    {metadata : MetadataMap t} {identity : VerifiedRpcServiceIdentity} {later : SystemTime}
    {v : VerifiedRpcCallerContext} (configured : security.callerContextVerifier = some verifier)
    (context : Reads metadata rpcCallerContextMetadata (some signed.encodedContext))
    (signature : Reads metadata rpcCallerContextSignatureMetadata (some signed.signature))
    (admitted : security.verifyOptionalCallerContext codec metadata identity later =
      .ok (some v)) :
    ∃ key, Reads metadata "idempotency-key" key ∧
      verifier.verify codec signed identity key later = .ok v := by
  simp only [RpcInternalServiceSecurity.verifyOptionalCallerContext,
    optionalMetadata_reads context, optionalMetadata_reads signature, configured, okOr,
    ok_bind] at admitted
  obtain ⟨key, read, admitted⟩ := bind_ok admitted
  obtain ⟨found, verified, admitted⟩ := bind_ok admitted
  cases admitted
  exact ⟨key, optionalMetadata_ok read, mapError_ok verified⟩

theorem Exchange.issued (x : Exchange) : ∃ issuedAt expiresAt,
    Issued x.codec x.signer x.context x.ttl x.now x.nonce x.credential.signedCallerContext
      issuedAt expiresAt := by
  have signs := (issue_ok x.succeeded).1
  rw [provider_new_ok x.provided] at signs
  exact signAt_issued signs

/-- Of a credential within its window the verifier has only the key left to compare. -/
theorem Exchange.verify_iff (x : Exchange) (key : Option String) :
    (∃ v, x.verifier.verify x.codec x.credential.signedCallerContext x.identity key x.later =
        .ok v ∧ v.callerContext = x.context) ↔ key = x.context.idempotencyKey := by
  obtain ⟨issuedAt, expiresAt, issued⟩ := x.issued
  obtain ⟨identifier, signer_is⟩ := signer_new_ok x.made
  have issuer_is : x.signer.issuerServiceId = x.issuer := by rw [signer_is]
  have trusts : x.verifier.issuerKeys x.signer.issuerServiceId = some x.signer.signingKey := by
    rw [signer_is]
    exact x.trusts
  have second : issuedAt = x.issuedSecond :=
    Except.ok.inj (issued.issued.symm.trans x.issuedRead)
  have accepts := @verify_issued_iff x.codec x.signer x.context x.ttl x.now x.nonce _ issuedAt
    expiresAt x.verifier x.identity key x.later x.readSecond x.standard (build_ok x.built)
    (issuer_is ▸ identifier) x.uuid (by rw [signer_is]) x.least issued (verifier_new_ok x.opened)
    trusts x.laterRead
  constructor
  · rintro ⟨v, verified, -⟩
    exact ((accepts v).mp verified).1.idempotency
  · intro same
    refine ⟨_, (accepts _).mpr ⟨⟨x.meant, ?_, same, ?_, ?_⟩, rfl⟩, rfl⟩
    · rw [issuer_is, x.presenter]
    · rw [second]
      exact x.started
    · rw [issued.expires, second]
      exact x.ended

/-- The server returns the context exactly when the key it reads is the signed one. -/
theorem Exchange.admits_iff (x : Exchange) {metadata : MetadataMap t}
    (context : Reads metadata rpcCallerContextMetadata
      (some x.credential.signedCallerContext.encodedContext))
    (signature : Reads metadata rpcCallerContextSignatureMetadata
      (some x.credential.signedCallerContext.signature)) :
    x.Admits (.ok metadata) ↔ Reads metadata "idempotency-key" x.context.idempotencyKey := by
  constructor
  · rintro ⟨v, admitted, carried⟩
    obtain ⟨key, reads, verified⟩ :=
      verifyOptionalCallerContext_signed x.configured context signature admitted
    rw [← (x.verify_iff key).mp ⟨v, verified, carried⟩]
    exact reads
  · intro reads
    obtain ⟨v, verified, carried⟩ := (x.verify_iff _).mpr rfl
    exact ⟨v, verifyOptionalCallerContext_reads x.configured context signature reads verified,
      carried⟩

theorem Exchange.decides (x : Exchange) (sameName : names.idempotencyKey = "idempotency-key")
    (rules : HeaderRules t names) (m : MetadataMap t) : KeyDecides names x.credential m := by
  obtain ⟨issuedAt, expiresAt, issued⟩ := x.issued
  obtain ⟨identifier, signer_is⟩ := signer_new_ok x.made
  have issuer_is : x.signer.issuerServiceId = x.issuer := by rw [signer_is]
  exact issued_decides sameName rules x.standard (build_ok x.built) (issuer_is ▸ identifier)
    x.uuid issued (issue_ok x.succeeded).2 m

theorem sent_reads {text read : String} {legal : (bytes text).all t.headerByte = true}
    (reads : MetadataValue.toStr (⟨bytes text, legal⟩ : MetadataValue t) = some read) :
    read = text :=
  bytes_injective (t.toStr_bytes reads)

variable [SdkworkUtils]

/-! ## What the fields of a call leave in the metadata -/

theorem applyTo_separate {m : RpcCallMetadata} {map : MetadataMap t} {header : String}
    (fields : ∀ name ∈ [names.authorization, names.accessToken, names.requestId,
      names.traceparent, names.idempotencyKey, names.requestHash],
      t.metadataKey name ≠ some header) :
    (m.applyTo names map).get header = map.get header := by
  simp only [List.forall_mem_cons] at fields
  obtain ⟨h1, h2, h3, h4, h5, h6, -⟩ := fields
  unfold RpcCallMetadata.applyTo MetadataMap.get
  rw [insertOptional_other _ _ _ _ h6, insertOptional_other _ _ _ _ h5,
    insertOptional_other _ _ _ _ h4, insertOptional_other _ _ _ _ h3,
    insertOptional_other _ _ _ _ h2, insertOptional_other _ _ _ _ h1]

theorem onWire_some {value text : String} (sent : onWire t (some value) = some text) :
    text = value ∧ isBlank (some value) = false ∧ (bytes value).all t.headerByte = true := by
  simp only [onWire] at sent
  split at sent
  · rename_i sendable
    cases sent
    rw [Bool.and_eq_true, Bool.not_eq_true'] at sendable
    exact ⟨rfl, sendable⟩
  · cases sent

theorem insertOptional_dropped {map : MetadataMap t} {key : String} {value : Option String}
    (dropped : onWire t value = none) : insertOptional map key value = map := by
  cases value with
  | none => rfl
  | some value =>
    simp only [insertOptional]
    split
    · rfl
    · rename_i solid
      have illegal : MetadataValue.tryFrom t value = none := by
        apply dif_neg
        intro legal
        simp [onWire, solid, legal] at dropped
      rw [illegal]
      cases t.metadataKey key with
      | none => rfl
      | some parsedKey => rfl

theorem applyTo_key_sent (rules : HeaderRules t names) (separate : SeparateNames t names)
    {m : RpcCallMetadata} {text : String} (sent : onWire t m.idempotencyKey = some text)
    (map : MetadataMap t) :
    ∃ legal, (m.applyTo names map).get names.idempotencyKey = some ⟨bytes text, legal⟩ := by
  cases given : m.idempotencyKey with
  | none =>
    rw [given] at sent
    cases sent
  | some value =>
    rw [given] at sent
    obtain ⟨rfl, solid, legal⟩ := onWire_some sent
    refine ⟨legal, ?_⟩
    unfold RpcCallMetadata.applyTo MetadataMap.get
    rw [insertOptional_other _ _ _ _ (separate.fields names.requestHash (by simp)).2.2, given,
      insertOptional_accepted _ _ _ _ rules.idempotency solid legal]
    rfl

theorem applyTo_key_dropped (separate : SeparateNames t names) {m : RpcCallMetadata}
    (dropped : onWire t m.idempotencyKey = none) (map : MetadataMap t) :
    (m.applyTo names map).get names.idempotencyKey = map.get names.idempotencyKey := by
  have other := separate.fields
  simp only [List.forall_mem_cons] at other
  obtain ⟨h1, h2, h3, h4, h5, -⟩ := other
  unfold RpcCallMetadata.applyTo MetadataMap.get
  rw [insertOptional_other _ _ _ _ h5.2.2, insertOptional_dropped dropped,
    insertOptional_other _ _ _ _ h4.2.2, insertOptional_other _ _ _ _ h3.2.2,
    insertOptional_other _ _ _ _ h2.2.2, insertOptional_other _ _ _ _ h1.2.2]

/-! ## One key against the other -/

/-- The key of the call's own fields, where it is sent at all, is the signed one. -/
def KeysAgree (t : Tonic) (m : RpcCallMetadata) (c : RpcCallerContext) : Prop :=
  ∀ text, onWire t m.idempotencyKey = some text → c.idempotencyKey = some text

theorem keyAgrees_iff (rules : HeaderRules t names) (separate : SeparateNames t names)
    {c : RpcCallerContext} (built : c.Built) {m : RpcCallMetadata} {initial : MetadataMap t}
    (fresh : initial.get names.idempotencyKey = none) :
    KeyAgrees names (m.applyTo names initial) c.idempotencyKey ↔ KeysAgree t m c := by
  unfold KeyAgrees KeysAgree
  cases sent : onWire t m.idempotencyKey with
  | none => simp [applyTo_key_dropped separate sent, fresh]
  | some text =>
    obtain ⟨legal, found⟩ := applyTo_key_sent rules separate sent initial
    rw [found]
    constructor
    · rintro agrees _ ⟨⟩
      obtain ⟨read, reads, same⟩ := agrees _ rfl
      rw [same, sent_reads reads]
    · rintro agree _ ⟨⟩
      have same := agree text rfl
      exact ⟨text, (built_keyToken built same).toStr legal, same⟩

theorem reads_key_iff (rules : HeaderRules t names) (separate : SeparateNames t names)
    {c : RpcCallerContext} (built : c.Built) {m : RpcCallMetadata} {signed : MetadataMap t}
    (reads : Reads signed names.idempotencyKey c.idempotencyKey) :
    Reads (m.applyTo names signed) names.idempotencyKey c.idempotencyKey ↔ KeysAgree t m c := by
  unfold KeysAgree
  unfold Reads at reads ⊢
  cases sent : onWire t m.idempotencyKey with
  | none => simp [applyTo_key_dropped separate sent, reads]
  | some text =>
    obtain ⟨legal, found⟩ := applyTo_key_sent rules separate sent signed
    rw [found, Option.map_some]
    constructor
    · rintro read _ ⟨⟩
      obtain ⟨key, held, shown⟩ := Option.map_eq_some_iff.mp read.symm
      rw [held, sent_reads shown.symm]
    · intro agree
      have same := agree text rfl
      rw [same, (built_keyToken built same).toStr legal]
      rfl

theorem separate_headers (rules : HeaderRules t names) (separate : SeparateNames t names)
    (sameName : names.idempotencyKey = "idempotency-key") {header : String}
    (signedHeader : header = rpcCallerContextMetadata ∨
      header = rpcCallerContextSignatureMetadata) (m : RpcCallMetadata) (map : MetadataMap t) :
    (m.applyTo names map).get header = map.get header := by
  apply applyTo_separate
  have own : t.metadataKey names.idempotencyKey ≠ some header := by
    rw [rules.idempotency, sameName]
    rcases signedHeader with rfl | rfl
    · decide
    · decide
  have other := separate.fields
  simp only [List.forall_mem_cons] at other ⊢
  rcases signedHeader with rfl | rfl
  · exact ⟨other.1.1, other.2.1.1, other.2.2.1.1, other.2.2.2.1.1, own, other.2.2.2.2.1.1, by simp⟩
  · exact ⟨other.1.2.1, other.2.1.2.1, other.2.2.1.2.1, other.2.2.2.1.2.1, own,
      other.2.2.2.2.1.2.1, by simp⟩

/-- What assembled metadata hold, whichever was written first: both headers of the credential,
the signed key exactly if the call's own does not differ, and nothing new under other names. -/
structure Assembled (names : MetadataNames) (m : RpcCallMetadata) (c : RpcCallerContext)
    (signed : SignedRpcCallerContext) (initial metadata : MetadataMap t) : Prop where
  context : Reads metadata rpcCallerContextMetadata (some signed.encodedContext)
  signature : Reads metadata rpcCallerContextSignatureMetadata (some signed.signature)
  key : Reads metadata names.idempotencyKey c.idempotencyKey ↔ KeysAgree t m c
  others : ∀ {other : String}, (∀ name ∈ [names.authorization, names.accessToken,
      names.requestId, names.traceparent, names.idempotencyKey, names.requestHash],
      t.metadataKey name ≠ some other) →
    other ≠ rpcCallerContextMetadata → other ≠ rpcCallerContextSignatureMetadata →
    other ≠ names.idempotencyKey → metadata.get other = initial.get other

variable {credential : RpcServiceCredential} {c : RpcCallerContext} {initial : MetadataMap t}

theorem metadataFirst_assembled (rules : HeaderRules t names) (separate : SeparateNames t names)
    (built : c.Built) (carried : credential.idempotencyKey = c.idempotencyKey)
    (decides : ∀ map : MetadataMap t, KeyDecides names credential map) (m : RpcCallMetadata)
    (fresh : initial.get names.idempotencyKey = none) :
    (KeysAgree t m c ∧ ∃ metadata, metadataFirst names m credential initial = .ok metadata ∧
      Assembled names m c credential.signedCallerContext initial metadata) ∨
    (¬ KeysAgree t m c ∧ ∃ error, metadataFirst names m credential initial = .error error) := by
  have compared := @keyAgrees_iff t names _ rules separate c built m initial fresh
  rw [← carried] at compared
  unfold metadataFirst
  rcases decides (m.applyTo names initial) with
    ⟨agrees, metadata, ran, written⟩ | ⟨disagrees, error, ran⟩
  · rw [ran]
    have agree := compared.mp agrees
    have key := written.key
    rw [carried] at key
    refine .inl ⟨agree, metadata, rfl, written.context, written.signature,
      iff_of_true key agree, fun unnamed notContext notSignature notKey => ?_⟩
    rw [written.others notContext notSignature notKey, applyTo_separate unnamed]
  · rw [ran]
    exact .inr ⟨mt compared.mpr disagrees, error, rfl⟩

/-- On fresh metadata the credential always goes in, so only the server can object. -/
theorem credentialFirst_assembled (sameName : names.idempotencyKey = "idempotency-key")
    (rules : HeaderRules t names) (separate : SeparateNames t names) (built : c.Built)
    (carried : credential.idempotencyKey = c.idempotencyKey)
    (decides : ∀ map : MetadataMap t, KeyDecides names credential map) (m : RpcCallMetadata)
    (fresh : initial.get names.idempotencyKey = none) :
    ∃ metadata, credentialFirst names m credential initial = .ok metadata ∧
      Assembled names m c credential.signedCallerContext initial metadata := by
  have agrees : KeyAgrees names initial credential.idempotencyKey := by
    intro value present
    rw [fresh] at present
    cases present
  rcases decides initial with ⟨-, signed, ran, written⟩ | ⟨disagrees, -⟩
  · have headers := fun header signedHeader =>
      @separate_headers t names _ rules separate sameName header signedHeader m signed
    have key := written.key
    rw [carried] at key
    refine ⟨m.applyTo names signed, by rw [credentialFirst, ran], ?_, ?_,
      reads_key_iff rules separate built key, fun unnamed notContext notSignature notKey => ?_⟩
    · rw [Reads, headers _ (.inl rfl)]
      exact written.context
    · rw [Reads, headers _ (.inr rfl)]
      exact written.signature
    · rw [applyTo_separate unnamed, written.others notContext notSignature notKey]
  · exact absurd agrees disagrees

theorem Exchange.admits_assembled (x : Exchange)
    (sameName : names.idempotencyKey = "idempotency-key") {m : RpcCallMetadata}
    {metadata : MetadataMap t}
    (assembled : Assembled names m x.context x.credential.signedCallerContext initial metadata) :
    x.Admits (.ok metadata) ↔ KeysAgree t m x.context := by
  rw [x.admits_iff assembled.context assembled.signature, ← sameName]
  exact assembled.key

end

attribute [local instance] languageUtils

/- The sample exchange: the credential holds the key order-1. -/
theorem order_exchange :
    ∃ x : Exchange, x.credential = orderCredential ∧ x.context = orderContext :=
  ⟨{  codec := tagCodec
      standard := tagCodec_standard
      builder := orderBuilder
      context := orderContext
      built := rfl
      issuer := "orders"
      key := orderKey
      signer := orderCall.signer
      made := rfl
      ttl := .fromSecs 60
      least := by decide
      provider := _
      provided := rfl
      now := orderCall.now
      nonce := orderNonce
      uuid := orderNonce_uuid
      credential := orderCredential
      succeeded := orderCredential_issued
      audience := "billing"
      keys := [("orders", orderKey)]
      verifier := _
      opened := rfl
      meant := rfl
      trusts := rfl
      security := ⟨billingSecurity.serviceIdentityPolicy, some _⟩
      configured := rfl
      identity := ordersIdentity
      presenter := rfl
      later := ⟨1090 * 1000000000⟩
      issuedSecond := ⟨1000, by decide, by decide⟩
      readSecond := ⟨1090, by decide, by decide⟩
      issuedRead := by decide
      laterRead := by decide
      started := by decide
      ended := by decide }, rfl, rfl⟩

end SdkworkRpc.Server
