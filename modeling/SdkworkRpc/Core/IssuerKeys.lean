import SdkworkRpc.Core.RoundTrip

/-! Which of the keys that a verifier is given it trusts. A verifier holds one key for each
issuer: the last one it was given. -/
namespace SdkworkRpc.Core

open Machine Text

def lastKey (issuer : String) :
    List (String × RpcCallerContextSigningKey) → Option RpcCallerContextSigningKey
  | [] => none
  | (serviceId, key) :: rest =>
    (lastKey issuer rest).or (if serviceId = issuer then some key else none)

theorem lastKey_listed {issuer : String} {keys : List (String × RpcCallerContextSigningKey)}
    {key : RpcCallerContextSigningKey} (last : lastKey issuer keys = some key) :
    (issuer, key) ∈ keys := by
  induction keys with
  | nil => cases last
  | cons entry rest ih =>
    rw [lastKey, Option.or_eq_some_iff] at last
    rcases last with later | ⟨-, here⟩
    · exact List.mem_cons_of_mem _ (ih later)
    · split at here
      · rename_i same
        cases here
        rw [← same]
        exact List.mem_cons_self
      · cases here

theorem collectIssuerKeys_ok {entries : List (String × RpcCallerContextSigningKey)}
    {known collected : String → Option RpcCallerContextSigningKey}
    (made : collectIssuerKeys entries known = .ok collected) (issuer : String) :
    collected issuer = (lastKey issuer entries).or (known issuer) := by
  induction entries generalizing known with
  | nil =>
    cases made
    rfl
  | cons entry rest ih =>
    obtain ⟨serviceId, valid, made⟩ := bind_ok made
    obtain ⟨_, -, same⟩ := bind_ok valid
    cases same
    rw [ih made, lastKey, Option.or_assoc, Function.update_apply]
    by_cases own : issuer = entry.1
    · rw [if_pos own, if_pos own.symm, Option.some_or]
    · rw [if_neg own, if_neg (Ne.symm own), Option.none_or]

theorem verifier_keys {audience : String} {keys : List (String × RpcCallerContextSigningKey)}
    {verifier : RpcCallerContextVerifier}
    (opened : RpcCallerContextVerifier.new audience keys = .ok verifier) (issuer : String) :
    verifier.issuerKeys issuer = lastKey issuer keys := by
  unfold RpcCallerContextVerifier.new at opened
  obtain ⟨_, -, opened⟩ := bind_ok opened
  obtain ⟨collected, made, opened⟩ := bind_ok opened
  split at opened
  · cases opened
  · cases opened
    have last := collectIssuerKeys_ok made issuer
    rwa [Option.or_none] at last

/-- A context as one was built, and as a signer signed it. -/
structure Signing (codec : Codec) where
  builder : RpcCallerContextBuilder
  context : RpcCallerContext
  built : builder.build = .ok context
  issuer : String
  key : RpcCallerContextSigningKey
  signer : RpcCallerContextSigner
  made : RpcCallerContextSigner.new issuer key = .ok signer
  ttl : Duration
  least : (Duration.fromSecs 1).nanos ≤ ttl.nanos
  now : SystemTime
  nonce : String
  uuid : SimpleUuid nonce
  signed : SignedRpcCallerContext
  succeeded : signer.signAt codec context ttl now nonce = .ok signed

def Signing.Apart {codec : Codec} (s : Signing codec)
    (keys : List (String × RpcCallerContextSigningKey)) : Prop :=
  ∀ entry ∈ keys, ∀ tag, codec.base64urlDecode s.signed.signature = some tag →
    codec.verifyHmacSha256Base64url (bytes (signingInput s.signed.encodedContext))
      entry.2.asBytes tag = true → entry.2 = s.key

/-- All that a receiver decides on: its audience, its last key for the issuer, who presents the
context, with which key of the request, and when. -/
structure Signing.Fits {codec : Codec} (s : Signing codec)
    (keys : List (String × RpcCallerContextSigningKey)) (verifier : RpcCallerContextVerifier)
    (peer : VerifiedRpcServiceIdentity) (metadataKey : Option String) (n : I64) : Prop where
  key : lastKey s.issuer keys = some s.key
  audience : verifier.audienceServiceId = s.context.audienceServiceId
  issuer : peer.serviceId = s.issuer
  idempotency : metadataKey = s.context.idempotencyKey
  window : ∃ i, unixSeconds s.now = .ok i ∧ i.val - 30 ≤ n.val ∧
    n.val ≤ i.val + s.ttl.asSecs + 30

section

variable {codec : Codec} {audience : String} {keys : List (String × RpcCallerContextSigningKey)}
  {verifier : RpcCallerContextVerifier} {peer : VerifiedRpcServiceIdentity}
  {metadataKey : Option String} {later : SystemTime} {v : VerifiedRpcCallerContext}

/-- An accepted context was signed with the last key that the verifier was given. -/
theorem Signing.trusted (s : Signing codec)
    (opened : RpcCallerContextVerifier.new audience keys = .ok verifier) (apart : s.Apart keys)
    (accepted : verifier.verify codec s.signed peer metadataKey later = .ok v) :
    lastKey s.issuer keys = some s.key := by
  obtain ⟨-, signer_is⟩ := signer_new_ok s.made
  obtain ⟨issuedAt, expiresAt, issued⟩ := signAt_issued s.succeeded
  obtain ⟨payload, key, tag, -, checks⟩ := verify_ok accepted
  cases Option.some.inj (checks.decoded.symm.trans (issued_decodes issued))
  have last : lastKey s.issuer keys = some key := by
    rw [← verifier_keys opened]
    have named : s.signer.issuerServiceId = s.issuer := by rw [signer_is]
    rw [← named]
    exact checks.trusted
  rw [last, ← apart _ (lastKey_listed last) tag checks.signature checks.authentic]

theorem Signing.verify_iff (s : Signing codec) (standard : Standard codec)
    (opened : RpcCallerContextVerifier.new audience keys = .ok verifier) (apart : s.Apart keys)
    {n : I64} (read : unixSeconds later = .ok n) :
    (∃ v, verifier.verify codec s.signed peer metadataKey later = .ok v ∧
      v.callerContext = s.context) ↔ s.Fits keys verifier peer metadataKey n := by
  obtain ⟨identifier, signer_is⟩ := signer_new_ok s.made
  have named : s.signer.issuerServiceId = s.issuer := by rw [signer_is]
  have keyed : s.signer.signingKey = s.key := by rw [signer_is]
  obtain ⟨issuedAt, expiresAt, issued⟩ := signAt_issued s.succeeded
  have accepts := fun trusts => @verify_issued_iff codec s.signer s.context s.ttl s.now s.nonce
    s.signed issuedAt expiresAt verifier peer metadataKey later n standard (build_ok s.built)
    (named ▸ identifier) s.uuid (by rw [signer_is]) s.least issued (verifier_new_ok opened) trusts
    read
  rw [named, keyed, verifier_keys opened] at accepts
  constructor
  · rintro ⟨v, accepted, -⟩
    have last := s.trusted opened apart accepted
    obtain ⟨presented, -⟩ := (accepts last v).mp accepted
    refine ⟨last, presented.audience, presented.issuer.trans named, presented.idempotency,
      issuedAt, issued.issued, presented.started, ?_⟩
    rw [← issued.expires]
    exact presented.ended
  · rintro ⟨last, meant, presenter, same, i, issuedRead, started, ended⟩
    cases Except.ok.inj (issued.issued.symm.trans issuedRead)
    rw [← issued.expires] at ended
    exact ⟨_, (accepts last _).mpr ⟨⟨meant, presenter.trans named.symm, same, started, ended⟩, rfl⟩,
      rfl⟩

end

/- The sample exchange under the key that follows, with the tag that HMAC-SHA256 gives there. -/
def nextKey : RpcCallerContextSigningKey := ⟨List.replicate 32 8, List.length_replicate⟩

def nextTag : List UInt8 :=
  [4, 76, 76, 27, 51, 141, 124, 245, 221, 36, 182, 218, 6, 2, 234, 12, 46, 200, 107, 143, 191, 178,
    235, 90, 65, 212, 53, 118, 33, 198, 157, 103]

def rotatedTag (message key : List UInt8) : List UInt8 :=
  if message = orderMessage ∧ key = nextKey.asBytes then nextTag else sampleTag message key

def rotatedCodec : Codec :=
  { orderCodec with
    hmacSha256Base64url := fun message key => Base64url.encode (rotatedTag message key)
    verifyHmacSha256Base64url := fun message key tag => tag = rotatedTag message key }

theorem rotatedCodec_tagged (message key : List UInt8) : rotatedCodec.base64urlDecode
    (rotatedCodec.hmacSha256Base64url message key) = some (rotatedTag message key) :=
  Base64url.decode_encode (rotatedTag message key)

theorem rotatedTag_order : rotatedTag orderMessage orderKey.asBytes = orderTag := by
  have other : ¬ orderKey.asBytes = nextKey.asBytes := by decide
  simp only [rotatedTag, sampleTag, other, and_false, if_false, and_self, if_true]

theorem rotatedTag_next : rotatedTag orderMessage nextKey.asBytes = nextTag := by
  simp only [rotatedTag, and_self, if_true]

theorem rotatedCodec_standard : Standard rotatedCodec := by
  refine ⟨rfl, tagCodec_standard.json, fun message key => ⟨rotatedTag message key, ?_, rfl, ?_⟩⟩
  · unfold rotatedTag sampleTag
    split
    · rfl
    · split <;> rfl
  · exact decide_eq_true rfl

def SampleSigning {codec : Codec} (s : Signing codec) (key : RpcCallerContextSigningKey) : Prop :=
  s.issuer = "orders" ∧ s.key = key ∧ s.context = orderContext ∧ s.now = orderCall.now ∧
    s.ttl = .fromSecs 60 ∧ s.signed.encodedContext = Base64url.encode orderJson

theorem sampleSigning {codec : Codec} (encodes : codec.base64urlEncode = Base64url.encode)
    (writes : codec.toVec orderPayload = .ok orderJson) (key : RpcCallerContextSigningKey) :
    ∃ s : Signing codec, SampleSigning s key := by
  have succeeded := @signAt_writes codec ⟨"orders", key, maxCallerContextTtl⟩ orderContext
    (.fromSecs 60) orderCall.now orderNonce orderPayload.issuedAtUnixSeconds
    ⟨60, by decide, by decide⟩ orderPayload.expiresAtUnixSeconds orderJson rfl (by decide)
    (by decide) (by decide) writes
  rw [encodes] at succeeded
  exact ⟨{
    builder := orderBuilder
    context := orderContext
    built := rfl
    issuer := "orders"
    key := key
    signer := ⟨"orders", key, maxCallerContextTtl⟩
    made := rfl
    ttl := .fromSecs 60
    least := by decide
    now := orderCall.now
    nonce := orderNonce
    uuid := orderNonce_uuid
    signed := _
    succeeded := succeeded }, rfl, rfl, rfl, rfl, rfl, rfl⟩

theorem rotated_apart {s : Signing rotatedCodec} {key : RpcCallerContextSigningKey}
    (sample : SampleSigning s key) (known : key = orderKey ∨ key = nextKey) :
    s.Apart [("orders", orderKey), ("orders", nextKey)] := by
  obtain ⟨-, key_is, -, -, -, encoded⟩ := sample
  obtain ⟨-, signer_is⟩ := signer_new_ok s.made
  obtain ⟨issuedAt, expiresAt, issued⟩ := signAt_issued s.succeeded
  intro entry listed tag decoded verifies
  have message : bytes (signingInput s.signed.encodedContext) = orderMessage := by
    rw [encoded]
    rfl
  have made : rotatedTag orderMessage key.asBytes = tag := by
    rw [issued.tagged, message, signer_is, key_is, rotatedCodec_tagged] at decoded
    exact Option.some.inj decoded
  have read : tag = rotatedTag orderMessage entry.2.asBytes := by
    rw [message] at verifies
    exact of_decide_eq_true verifies
  rw [key_is]
  have differ : orderTag ≠ nextTag := by decide
  rcases List.mem_cons.mp listed with rfl | listed
  · rcases known with rfl | rfl
    · rfl
    · rw [read, rotatedTag_next, rotatedTag_order] at made
      exact absurd made.symm differ
  · cases List.mem_singleton.mp listed
    rcases known with rfl | rfl
    · rw [read, rotatedTag_next, rotatedTag_order] at made
      exact absurd made differ
    · rfl

end SdkworkRpc.Core
