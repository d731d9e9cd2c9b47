import SdkworkRpc.Client.Credential

/-! What a provider hands out. Its lifetime is checked as a duration but signed in whole
seconds, and its key goes into the metadata last, after both headers. -/
namespace SdkworkRpc.Client

open Machine Text SdkworkRpc.Core

/-! ## The lifetime -/

section

variable {codec : Codec} {signer : RpcCallerContextSigner} {c : RpcCallerContext} {ttl : Duration}
  {now : SystemTime} {nonce : String} {signed : SignedRpcCallerContext} {issuedAt expiresAt : I64}

theorem lifetime_valid_iff (built : c.Built) (issuer : Identifier signer.issuerServiceId)
    (uuid : SimpleUuid nonce) (bound : signer.maxTtl = maxCallerContextTtl)
    (issued : Issued codec signer c ttl now nonce signed issuedAt expiresAt) :
    validatePayload (signer.payload c issuedAt expiresAt nonce) maxCallerContextTtl = .ok () ↔
      (Duration.fromSecs 1).nanos ≤ ttl.nanos := by
  rw [validatePayload_signed built issuer uuid issued.expires, second_iff, and_iff_left]
  exact most_seconds (bound ▸ issued.bounded)

end

/-- What was signed passes the checks of a receiver, and is accepted by a matching verifier
when it was signed, exactly if the lifetime is a second or more. -/
theorem signed_lifetime_valid_iff (codec : Codec) (standard : Standard codec)
    (builder : RpcCallerContextBuilder) (c : RpcCallerContext) (built : builder.build = .ok c)
    (issuer : String) (key : RpcCallerContextSigningKey) (signer : RpcCallerContextSigner)
    (made : RpcCallerContextSigner.new issuer key = .ok signer) (ttl : Duration)
    (now : SystemTime) (nonce : String) (uuid : SimpleUuid nonce)
    (signed : SignedRpcCallerContext)
    (succeeded : signer.signAt codec c ttl now nonce = .ok signed) :
    ∃ payload, (codec.base64urlDecode signed.encodedContext).bind codec.fromSlice = some payload ∧
      (validatePayload payload signer.maxTtl = .ok () ↔
        (Duration.fromSecs 1).nanos ≤ ttl.nanos) ∧
      ∀ audience keys verifier, RpcCallerContextVerifier.new audience keys = .ok verifier →
        verifier.audienceServiceId = c.audienceServiceId →
        verifier.issuerKeys issuer = some key → ∀ peer, peer.serviceId = issuer →
        ((∃ v, verifier.verify codec signed peer c.idempotencyKey now = .ok v) ↔
          (Duration.fromSecs 1).nanos ≤ ttl.nanos) := by
  obtain ⟨identifier, rfl⟩ := signer_new_ok made
  obtain ⟨issuedAt, expiresAt, issued⟩ := signAt_issued succeeded
  have context := build_ok built
  have valid := lifetime_valid_iff context identifier uuid rfl issued
  refine ⟨_, issued_decodes issued, valid, ?_⟩
  intro audience keys verifier opened meant trusts peer presenter
  have limits := verifier_new_ok opened
  constructor
  · rintro ⟨v, accepted⟩
    obtain ⟨payload, _, _, -, checks⟩ := verify_ok accepted
    cases Option.some.inj (checks.decoded.symm.trans (issued_decodes issued))
    exact valid.mp (limits.1 ▸ checks.valid)
  · intro least
    have expires := issued.expires
    exact ⟨_, (@verify_issued_iff codec _ c ttl now nonce signed issuedAt expiresAt verifier peer
      c.idempotencyKey now issuedAt standard context identifier uuid rfl least issued limits trusts
      issued.issued _).mpr ⟨⟨meant, presenter, rfl, by omega, by omega⟩, rfl⟩⟩

/- One payload and its tag, with everything else unknown; base64url in full. -/
def exchangeMessage (payload : SignedRpcCallerContextPayload) : List UInt8 :=
  bytes (signingInput (Base64url.encode payload.json))

def exchangeTag (payload : SignedRpcCallerContextPayload) (tag message key : List UInt8) :
    List UInt8 :=
  if message = exchangeMessage payload ∧ key = orderKey.asBytes then tag else List.replicate 32 0

def exchangeCodec (payload : SignedRpcCallerContextPayload) (tag : List UInt8) : Codec where
  base64urlEncode := Base64url.encode
  base64urlDecode := Base64url.decode
  toVec p := if p = payload then .ok payload.json else .error "unknown payload"
  fromSlice bs := if bs = payload.json then some payload else none
  hmacSha256Base64url message key := Base64url.encode (exchangeTag payload tag message key)
  verifyHmacSha256Base64url message key given := given = exchangeTag payload tag message key
  base64url_round := Base64url.decode_encode
  json_round p bs written := by
    split at written
    · rename_i known
      cases written
      rw [known, if_pos rfl]
    · cases written

def exchangeSigned (payload : SignedRpcCallerContextPayload) (tag : List UInt8) :
    SignedRpcCallerContext :=
  ⟨Base64url.encode payload.json, Base64url.encode tag⟩

theorem exchangeCodec_toVec {payload p : SignedRpcCallerContextPayload}
    {tag serialized : List UInt8} :
    (exchangeCodec payload tag).toVec p = .ok serialized ↔
      p = payload ∧ serialized = payload.json := by
  change (if p = payload then Except.ok payload.json else .error "unknown payload") =
    .ok serialized ↔ _
  constructor
  · intro written
    split at written
    · rename_i known
      cases written
      exact ⟨known, rfl⟩
    · cases written
  · rintro ⟨rfl, rfl⟩
    exact if_pos rfl

theorem exchange_decodes (payload : SignedRpcCallerContextPayload) (tag : List UInt8) :
    ((exchangeCodec payload tag).base64urlDecode (exchangeSigned payload tag).encodedContext).bind
      (exchangeCodec payload tag).fromSlice = some payload := by
  have decoded := (exchangeCodec payload tag).base64url_round payload.json
  exact Option.bind_eq_some_iff.mpr ⟨payload.json, decoded, if_pos rfl⟩

theorem exchangeCodec_standard (payload : SignedRpcCallerContextPayload) {tag : List UInt8}
    (size : tag.length = 32) : Standard (exchangeCodec payload tag) := by
  constructor
  · rfl
  · intro p serialized _ written
    obtain ⟨rfl, rfl⟩ := exchangeCodec_toVec.mp written
    rfl
  · intro message key
    refine ⟨exchangeTag payload tag message key, ?_, rfl, decide_eq_true rfl⟩
    unfold exchangeTag
    split
    · exact size
    · rfl

theorem exchange_signs {c : RpcCallerContext} {ttl : Duration} {seconds expiresAt : I64}
    {payload : SignedRpcCallerContextPayload} (tag : List UInt8)
    (allowed : (!(ttl.isZero || ttl.nanos > maxCallerContextTtl.nanos)) = true)
    (whole : I64.ofInt? ttl.asSecs = some seconds)
    (expires : orderPayload.issuedAtUnixSeconds.checkedAdd seconds = some expiresAt)
    (signs : orderCall.signer.payload c orderPayload.issuedAtUnixSeconds expiresAt orderNonce =
      payload) :
    orderCall.signer.signAt (exchangeCodec payload tag) c ttl orderCall.now orderNonce =
      .ok (exchangeSigned payload tag) := by
  have issued : unixSeconds orderCall.now = .ok orderPayload.issuedAtUnixSeconds := by decide
  have written := (@exchangeCodec_toVec payload _ tag payload.json).mpr ⟨signs, rfl⟩
  rw [@signAt_writes (exchangeCodec payload tag) orderCall.signer c ttl orderCall.now orderNonce _
    _ _ _ allowed issued whole expires written]
  simp only [exchangeSigned, exchangeCodec, exchangeTag, exchangeMessage, orderCall, and_self,
    if_true]

theorem minute_signed {c : RpcCallerContext} (payload : SignedRpcCallerContextPayload)
    (tag : List UInt8)
    (signs : orderCall.signer.payload c orderPayload.issuedAtUnixSeconds
      orderPayload.expiresAtUnixSeconds orderNonce = payload) :
    orderCall.signer.signAt (exchangeCodec payload tag) c (.fromSecs 60) orderCall.now orderNonce =
      .ok (exchangeSigned payload tag) := by
  have whole : I64.ofInt? (Duration.fromSecs 60).asSecs = some ⟨60, by decide, by decide⟩ := by
    decide
  exact exchange_signs tag (by decide) whole (by decide) signs

theorem signed_lifetime_valid_order :
    ∃ payload, ((exchangeCodec orderPayload orderTag).base64urlDecode
        (exchangeSigned orderPayload orderTag).encodedContext).bind
          (exchangeCodec orderPayload orderTag).fromSlice = some payload ∧
      validatePayload payload maxCallerContextTtl = .ok () := by
  obtain ⟨payload, decoded, valid, -⟩ := signed_lifetime_valid_iff _
    (exchangeCodec_standard orderPayload rfl) orderBuilder orderContext rfl "orders" orderKey
    orderCall.signer rfl (.fromSecs 60) orderCall.now orderNonce orderNonce_uuid _
    (minute_signed orderPayload orderTag rfl)
  exact ⟨payload, decoded, valid.mpr (by decide)⟩

/- A lifetime of half a second: signed at 1000 to expire at 1000. -/
def halfSecond : Duration := .fromMillis 500 (Nat.le_of_ble_eq_true rfl)

def instantPayload : SignedRpcCallerContextPayload :=
  { orderPayload with expiresAtUnixSeconds := orderPayload.issuedAtUnixSeconds }

def instantTag : List UInt8 :=
  [185, 163, 211, 134, 203, 37, 31, 130, 30, 122, 99, 235, 114, 170, 223, 107, 193, 36, 129, 230,
    176, 115, 160, 196, 12, 100, 76, 31, 108, 85, 245, 133]

theorem instant_signed : orderCall.signer.signAt (exchangeCodec instantPayload instantTag)
    orderContext halfSecond orderCall.now orderNonce =
      .ok (exchangeSigned instantPayload instantTag) := by
  have whole : I64.ofInt? halfSecond.asSecs = some ⟨0, by decide, by decide⟩ := by decide
  exact exchange_signs instantTag (by decide) whole (by decide) rfl

/-- Accepted by the provider and signed, and refused by every verifier at every time. -/
theorem instant_refused :
    SignedRpcServiceCredentialProvider.new orderCall.signer halfSecond =
      .ok ⟨orderCall.signer, halfSecond⟩ ∧
    orderCall.signer.signAt (exchangeCodec instantPayload instantTag) orderContext halfSecond
      orderCall.now orderNonce = .ok (exchangeSigned instantPayload instantTag) ∧
    validatePayload instantPayload orderCall.signer.maxTtl = .error (.validation
      "rpc caller context ttl must be between 1 second and 300 seconds") ∧
    ∀ audience keys verifier, RpcCallerContextVerifier.new audience keys = .ok verifier →
      ∀ peer metadataKey later v, verifier.verify (exchangeCodec instantPayload instantTag)
        (exchangeSigned instantPayload instantTag) peer metadataKey later ≠ .ok v := by
  have refused : validatePayload instantPayload maxCallerContextTtl = .error (.validation
      "rpc caller context ttl must be between 1 second and 300 seconds") := by decide +kernel
  refine ⟨rfl, instant_signed, refused, ?_⟩
  intro audience keys verifier opened peer metadataKey later v accepted
  obtain ⟨payload, _, _, -, checks⟩ := verify_ok accepted
  cases Option.some.inj (checks.decoded.symm.trans (exchange_decodes instantPayload instantTag))
  have valid := checks.valid
  rw [(verifier_new_ok opened).1, refused] at valid
  cases valid

/-! ## The metadata -/

/-- Nothing is written on failure, and on success what is meant to be and no more. -/
def AppliesAtomically {t : Tonic} (names : MetadataNames) (credential : RpcServiceCredential)
    (m : MetadataMap t) : Prop :=
  match (credential.applyTo names).run.run m with
  | (.error _, left) => left = m
  | (.ok (), applied) =>
    HoldsExactly applied rpcCallerContextMetadata credential.signedCallerContext.encodedContext ∧
    HoldsExactly applied rpcCallerContextSignatureMetadata
      credential.signedCallerContext.signature ∧
    (∀ key, credential.idempotencyKey = some key →
      HoldsExactly applied names.idempotencyKey key) ∧
    ∀ other, other ≠ rpcCallerContextMetadata → other ≠ rpcCallerContextSignatureMetadata →
      (credential.idempotencyKey.isSome = true → other ≠ names.idempotencyKey) →
      applied.values other = m.values other

section

variable {t : Tonic} {names : MetadataNames}

theorem holds_insert (m : MetadataMap t) (key : String) {value : String}
    (legal : (bytes value).all t.headerByte = true) :
    HoldsExactly (m.insert key ⟨bytes value, legal⟩) key value := by
  simp [HoldsExactly, MetadataMap.insert]

theorem values_insert (m : MetadataMap t) {key other : String} (value : MetadataValue t)
    (distinct : other ≠ key) : (m.insert key value).values other = m.values other :=
  Function.update_of_ne distinct _ _

theorem insert_held {m : MetadataMap t} {key value : String}
    (held : HoldsExactly m key value) (legal : (bytes value).all t.headerByte = true) :
    m.insert key ⟨bytes value, legal⟩ = m := by
  obtain ⟨stored, only, same⟩ := List.map_eq_singleton_iff.mp held
  have stored_eq : stored = ⟨bytes value, legal⟩ := by
    obtain ⟨stored, _⟩ := stored
    cases same
    rfl
  cases m with
  | mk values =>
    change MetadataMap.mk (Function.update values key [⟨bytes value, legal⟩]) = ⟨values⟩
    rw [← stored_eq, ← only, Function.update_eq_self]

variable {signed : SignedRpcCallerContext} (context : Insertable t signed.encodedContext)
  (signature : Insertable t signed.signature)

theorem addSigned_holds (m : MetadataMap t) :
    HoldsExactly (addSigned context signature m) rpcCallerContextMetadata signed.encodedContext ∧
      HoldsExactly (addSigned context signature m) rpcCallerContextSignatureMetadata
        signed.signature := by
  refine ⟨?_, holds_insert _ _ _⟩
  rw [HoldsExactly, addSigned, values_insert _ _ (by decide)]
  exact holds_insert _ _ _

theorem addSigned_other (m : MetadataMap t) {other : String}
    (first : other ≠ rpcCallerContextMetadata)
    (second : other ≠ rpcCallerContextSignatureMetadata) :
    (addSigned context signature m).values other = m.values other := by
  rw [addSigned, values_insert _ _ second, values_insert _ _ first]

theorem addSigned_same (m : MetadataMap t) :
    addSigned context signature m = m ↔
      HoldsExactly m rpcCallerContextMetadata signed.encodedContext ∧
        HoldsExactly m rpcCallerContextSignatureMetadata signed.signature := by
  constructor
  · intro same
    have holds := addSigned_holds context signature m
    rw [same] at holds
    exact holds
  · rintro ⟨first, second⟩
    rw [addSigned, insert_held first, insert_held second]

variable {credential : RpcServiceCredential} {m : MetadataMap t}

theorem applies_whole (rules : HeaderRules t names)
    (distinct : names.idempotencyKey ≠ rpcCallerContextMetadata ∧
      names.idempotencyKey ≠ rpcCallerContextSignatureMetadata)
    (context : Insertable t credential.signedCallerContext.encodedContext)
    (signature : Insertable t credential.signedCallerContext.signature)
    (agrees : KeyAgrees names m credential.idempotencyKey)
    (fits : ∀ key, credential.idempotencyKey = some key → Insertable t key) :
    AppliesAtomically names credential m := by
  have runs := applyTo_agrees rules context signature agrees
  obtain ⟨first, second⟩ := addSigned_holds context signature m
  unfold AppliesAtomically
  cases held : credential.idempotencyKey with
  | none =>
    simp only [held] at runs
    rw [runs]
    refine ⟨first, second, (by rintro _ ⟨⟩), ?_⟩
    intro other notContext notSignature _
    exact addSigned_other context signature m notContext notSignature
  | some key =>
    have insertable := fits key held
    simp only [held, insertRequired_insertable rules.idempotency insertable] at runs
    rw [runs]
    refine ⟨?_, ?_, ?_, ?_⟩
    · rw [HoldsExactly, values_insert _ _ distinct.1.symm]
      exact first
    · rw [HoldsExactly, values_insert _ _ distinct.2.symm]
      exact second
    · rintro _ ⟨⟩
      exact holds_insert _ _ _
    · intro other notContext notSignature notKey
      rw [values_insert _ _ (notKey rfl)]
      exact addSigned_other context signature m notContext notSignature

/-- A key that is refused is refused last, when both headers are already in. -/
theorem applies_part (rules : HeaderRules t names)
    (context : Insertable t credential.signedCallerContext.encodedContext)
    (signature : Insertable t credential.signedCallerContext.signature) {key : String}
    (held : credential.idempotencyKey = some key)
    (agrees : KeyAgrees names m credential.idempotencyKey) (refused : ¬ Insertable t key) :
    AppliesAtomically names credential m ↔
      HoldsExactly m rpcCallerContextMetadata credential.signedCallerContext.encodedContext ∧
        HoldsExactly m rpcCallerContextSignatureMetadata
          credential.signedCallerContext.signature := by
  have runs := applyTo_agrees rules context signature agrees
  obtain ⟨e, fails⟩ := @insertRequired_refused t names.idempotencyKey key refused
    (addSigned context signature m)
  simp only [held, fails] at runs
  unfold AppliesAtomically
  rw [runs]
  exact addSigned_same context signature m

end

theorem issued_insertable {t : Tonic} {names : MetadataNames} (rules : HeaderRules t names)
    {codec : Codec} (standard : Standard codec)
    (texts : ∀ payload serialized, codec.toVec payload = .ok serialized → serialized ≠ [])
    {provider : SignedRpcServiceCredentialProvider} {c : RpcCallerContext} {now : SystemTime}
    {nonce : String} {credential : RpcServiceCredential}
    (succeeded : provider.issue codec c now nonce = .ok credential) :
    Insertable t credential.signedCallerContext.encodedContext ∧
      Insertable t credential.signedCallerContext.signature := by
  obtain ⟨signs, -⟩ := issue_ok succeeded
  obtain ⟨issuedAt, expiresAt, issued⟩ := signAt_issued signs
  obtain ⟨context, signature⟩ := issued_tokens standard (texts _) issued
  exact ⟨context.insertable rules, signature.insertable rules⟩

/-- Applying an issued credential is all or nothing exactly if its key, unless it disagrees
with one already there, goes into a header, or both signed headers were there before. -/
theorem applies_atomically_iff (t : Tonic) (names : MetadataNames) (rules : HeaderRules t names)
    (distinct : names.idempotencyKey ≠ rpcCallerContextMetadata ∧
      names.idempotencyKey ≠ rpcCallerContextSignatureMetadata)
    (codec : Codec) (standard : Standard codec)
    (texts : ∀ payload serialized, codec.toVec payload = .ok serialized → serialized ≠ [])
    (provider : SignedRpcServiceCredentialProvider) (c : RpcCallerContext) (now : SystemTime)
    (nonce : String) (credential : RpcServiceCredential)
    (succeeded : provider.issue codec c now nonce = .ok credential) (m : MetadataMap t) :
    AppliesAtomically names credential m ↔
      ∀ key, c.idempotencyKey = some key → KeyAgrees names m (some key) →
        Insertable t key ∨
        HoldsExactly m rpcCallerContextMetadata credential.signedCallerContext.encodedContext ∧
          HoldsExactly m rpcCallerContextSignatureMetadata
            credential.signedCallerContext.signature := by
  obtain ⟨context, signature⟩ := issued_insertable rules standard texts succeeded
  rw [← (issue_ok succeeded).2]
  constructor
  · intro atomic key held agrees
    by_cases fits : Insertable t key
    · exact .inl fits
    · exact .inr ((applies_part rules context signature held (held ▸ agrees) fits).mp atomic)
  · intro allowed
    by_cases agrees : KeyAgrees names m credential.idempotencyKey
    case neg =>
      obtain ⟨e, fails⟩ := applyTo_disagrees agrees
      unfold AppliesAtomically
      rw [fails]
    by_cases fits : ∀ key, credential.idempotencyKey = some key → Insertable t key
    · exact applies_whole rules distinct context signature agrees fits
    · push Not at fits
      obtain ⟨key, held, refused⟩ := fits
      have kept := (allowed key held (held ▸ agrees)).resolve_left refused
      exact (applies_part rules context signature held agrees refused).mpr kept

theorem exchangeCodec_texts (payload : SignedRpcCallerContextPayload) (tag : List UInt8) :
    ∀ p serialized, (exchangeCodec payload tag).toVec p = .ok serialized → serialized ≠ [] := by
  intro p serialized written
  obtain ⟨-, rfl⟩ := exchangeCodec_toVec.mp written
  exact List.cons_ne_nil _ _

theorem exchange_issued {c : RpcCallerContext} {payload : SignedRpcCallerContextPayload}
    {tag : List UInt8} {key : Option String}
    (signs : orderCall.signer.signAt (exchangeCodec payload tag) c (.fromSecs 60) orderCall.now
      orderNonce = .ok (exchangeSigned payload tag)) (held : c.idempotencyKey = key) :
    (SignedRpcServiceCredentialProvider.mk orderCall.signer (.fromSecs 60)).issue
      (exchangeCodec payload tag) c orderCall.now orderNonce =
        .ok ⟨exchangeSigned payload tag, key⟩ := by
  unfold SignedRpcServiceCredentialProvider.issue
  rw [signs, held]
  rfl

theorem order_applies_atomically :
    AppliesAtomically standardNames ⟨exchangeSigned orderPayload orderTag, some "order-1"⟩
      (emptyMap http) := by
  have held : orderContext.idempotencyKey = some "order-1" := rfl
  have succeeded := exchange_issued (minute_signed orderPayload orderTag rfl) held
  rw [applies_atomically_iff http standardNames http_headerRules (by decide) _
    (exchangeCodec_standard orderPayload rfl) (exchangeCodec_texts orderPayload orderTag) _
    orderContext _ _ _ succeeded (emptyMap http)]
  intro key carried _
  cases Option.some.inj (held.symm.trans carried)
  exact .inl ⟨by decide, by decide⟩

/- The same call with an empty key, which the builder would not have let through. -/
def blankContext : RpcCallerContext := { orderContext with idempotencyKey := some "" }

def blankPayload : SignedRpcCallerContextPayload := { orderPayload with idempotencyKey := some "" }

def blankTag : List UInt8 :=
  [53, 11, 168, 103, 24, 6, 0, 61, 198, 104, 93, 18, 104, 233, 159, 158, 166, 55, 126, 109, 236,
    37, 22, 126, 1, 13, 204, 249, 212, 120, 34, 153]

theorem blank_key_half_applied :
    (SignedRpcServiceCredentialProvider.mk orderCall.signer (.fromSecs 60)).issue
      (exchangeCodec blankPayload blankTag) blankContext orderCall.now orderNonce =
        .ok ⟨exchangeSigned blankPayload blankTag, some ""⟩ ∧
    ∃ left : MetadataMap http,
      (RpcServiceCredential.applyTo standardNames
        ⟨exchangeSigned blankPayload blankTag, some ""⟩).run.run (emptyMap http) =
          (.error (.validation "required RPC metadata `idempotency-key` must not be blank"),
            left) ∧
      HoldsExactly left rpcCallerContextMetadata
        (exchangeSigned blankPayload blankTag).encodedContext ∧
      left.values standardNames.idempotencyKey = [] ∧ left ≠ emptyMap http := by
  have held : blankContext.idempotencyKey = some "" := rfl
  have succeeded := exchange_issued (minute_signed blankPayload blankTag rfl) held
  obtain ⟨context, signature⟩ := issued_insertable http_headerRules
    (exchangeCodec_standard blankPayload rfl) (exchangeCodec_texts blankPayload blankTag) succeeded
  have agrees : KeyAgrees standardNames (emptyMap http) (some "") := by
    rintro value ⟨⟩
  have holds := (addSigned_holds context signature (emptyMap http)).1
  refine ⟨succeeded, addSigned context signature (emptyMap http), ?_, holds, ?_, ?_⟩
  · exact @applyTo_agrees http standardNames http_headerRules
      ⟨exchangeSigned blankPayload blankTag, some ""⟩ context signature (emptyMap http) agrees
  · exact addSigned_other context signature (emptyMap http) (by decide) (by decide)
  · intro same
    rw [same] at holds
    cases holds

end SdkworkRpc.Client
