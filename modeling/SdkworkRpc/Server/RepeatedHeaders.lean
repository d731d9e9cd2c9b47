import SdkworkRpc.Server.Admission

/-! Keys that a request carries more than once. Admission looks at the first value of a key;
a method behind it may look at any. -/
namespace SdkworkRpc.Server

open Machine Text SdkworkRpc.Core Client

section

variable {t : Tonic}

def Uniform (metadata : MetadataMap t) (key : String) : Prop :=
  ∀ value ∈ metadata.values key, ∀ other ∈ metadata.values key, value = other

/-- Every value of the key is the text, and without a text there is none. -/
def HoldsOnly (metadata : MetadataMap t) (key : String) (text : Option String) : Prop :=
  ∀ value ∈ metadata.values key, text.map bytes = some value.bytes

theorem holdsOnly_bytes {metadata : MetadataMap t} {key : String} {text : Option String} :
    HoldsOnly metadata key text ↔
      ∀ b ∈ (metadata.values key).map MetadataValue.bytes, text.map bytes = some b := by
  rw [HoldsOnly, List.forall_mem_map]

theorem uniform_bytes {metadata : MetadataMap t} {key : String} :
    Uniform metadata key ↔
      ∀ b ∈ (metadata.values key).map MetadataValue.bytes,
        ∀ b' ∈ (metadata.values key).map MetadataValue.bytes, b = b' := by
  rw [Uniform, List.forall_mem_map]
  refine forall₂_congr fun value _ => ?_
  rw [List.forall_mem_map]
  exact forall₂_congr fun other _ => ⟨congrArg _, value_ext⟩

theorem reads_none {metadata : MetadataMap t} {key : String} (reads : Reads metadata key none) :
    metadata.values key = [] :=
  List.head?_eq_none_iff.mp (Option.map_eq_none_iff.mp reads)

theorem reads_some {metadata : MetadataMap t} {key text : String}
    (reads : Reads metadata key (some text)) :
    ∃ first rest, metadata.values key = first :: rest ∧ bytes text = first.bytes := by
  obtain ⟨first, found, read⟩ := Option.map_eq_some_iff.mp reads
  obtain ⟨rest, held⟩ := List.head?_eq_some_iff.mp found
  exact ⟨first, rest, held, t.toStr_bytes read⟩

theorem absent_iff {metadata : MetadataMap t} {key : String} (absent : Reads metadata key none)
    (text : Option String) : HoldsOnly metadata key text ↔ Uniform metadata key := by
  unfold HoldsOnly Uniform
  rw [reads_none absent]
  exact iff_of_true nofun nofun

/-- Beyond the first value, which was compared, it only matters that no other differs. -/
theorem holdsOnly_iff {metadata : MetadataMap t} {key : String} {text : Option String}
    (reads : Reads metadata key text) : HoldsOnly metadata key text ↔ Uniform metadata key := by
  cases text with
  | none => exact absent_iff reads none
  | some text =>
    obtain ⟨first, rest, held, same⟩ := reads_some reads
    constructor
    · intro holds value member other member'
      exact value_ext (Option.some.inj ((holds value member).symm.trans (holds other member')))
    · intro uniform value member
      rw [uniform value member first (by rw [held]; exact List.mem_cons_self), ← same]
      rfl

theorem asserted_reads {metadata : MetadataMap t} {identity : VerifiedRpcServiceIdentity}
    (asserted : validateOptionalServiceAssertion metadata identity = .ok ()) :
    Reads metadata rpcServiceIdentityAssertionMetadata none ∨
      Reads metadata rpcServiceIdentityAssertionMetadata (some identity.serviceId) := by
  unfold validateOptionalServiceAssertion at asserted
  obtain ⟨read, found, asserted⟩ := bind_ok asserted
  cases read with
  | none => exact .inl (optionalMetadata_ok found)
  | some assertion =>
    dsimp only at asserted
    split at asserted
    · cases asserted
    · rename_i same
      rw [← not_not.mp same]
      exact .inr (optionalMetadata_ok found)

theorem asserted_holdsOnly_iff {metadata : MetadataMap t} {identity : VerifiedRpcServiceIdentity}
    (asserted : validateOptionalServiceAssertion metadata identity = .ok ()) :
    HoldsOnly metadata rpcServiceIdentityAssertionMetadata (some identity.serviceId) ↔
      Uniform metadata rpcServiceIdentityAssertionMetadata := by
  rcases asserted_reads asserted with absent | present
  · exact absent_iff absent _
  · exact holdsOnly_iff present

variable {codec : Codec} {security : RpcInternalServiceSecurity}

theorem verified_reads {metadata : MetadataMap t} {identity : VerifiedRpcServiceIdentity}
    {now : SystemTime} {v : VerifiedRpcCallerContext}
    (verified : security.verifyOptionalCallerContext codec metadata identity now = .ok (some v)) :
    Reads metadata "idempotency-key" v.idempotencyKey := by
  obtain ⟨verifier, signed, key, -, read, accepted⟩ :=
    (verifyOptionalCallerContext_ok verified).2 v rfl
  obtain ⟨payload, _, _, rfl, checks⟩ := verify_ok accepted
  rw [checks.idempotency] at read
  exact optionalMetadata_ok read

theorem verified_holdsOnly_iff {metadata : MetadataMap t} {identity : VerifiedRpcServiceIdentity}
    {now : SystemTime} {context : Option VerifiedRpcCallerContext}
    (verified : security.verifyOptionalCallerContext codec metadata identity now = .ok context) :
    (∀ v, context = some v → HoldsOnly metadata "idempotency-key" v.idempotencyKey) ↔
      (BothHeaders metadata → Uniform metadata "idempotency-key") := by
  rw [← (verifyOptionalCallerContext_ok verified).1]
  cases context with
  | none => simp
  | some v =>
    have bound := holdsOnly_iff (verified_reads verified)
    constructor
    · intro holds _
      exact bound.mp (holds v rfl)
    · rintro uniform _ ⟨⟩
      exact bound.mpr (uniform rfl)

/-- No header that was checked has a second value: each assertion is the peer's identity, and
with a verified context each key is the signed one. -/
def NothingSmuggled (metadata : MetadataMap t) (identity : VerifiedRpcServiceIdentity)
    (context : Option VerifiedRpcCallerContext) : Prop :=
  HoldsOnly metadata rpcServiceIdentityAssertionMetadata (some identity.serviceId) ∧
    ∀ v, context = some v → HoldsOnly metadata "idempotency-key" v.idempotencyKey

/- For every policy, verifier, clock and metadata. A request that is admitted has the identity
of its chain and the context that was verified; beside these stands a second value exactly
when a key was sent with values that differ. -/
theorem nothing_smuggled_iff (x509 : X509) (codec : Codec)
    (security : RpcInternalServiceSecurity) (now : SystemTime) (request : Request t)
    (admitted : (security.outcome x509 codec now request).1 = .ok ()) :
    ∃ identity context,
      certificateIdentity x509 security.serviceIdentityPolicy request.peerCerts = some identity ∧
      security.verifyOptionalCallerContext codec request.metadata identity now = .ok context ∧
      (security.outcome x509 codec now request).2.extensions =
        request.extensions.inject identity context ∧
      (NothingSmuggled request.metadata identity context ↔
        Uniform request.metadata rpcServiceIdentityAssertionMetadata ∧
          (BothHeaders request.metadata → Uniform request.metadata "idempotency-key")) := by
  obtain ⟨identity, context, passed, injected⟩ := admitted_checks admitted
  obtain ⟨derived, asserted, verified⟩ := checks_ok passed
  exact ⟨identity, context, derived, verified, injected,
    and_congr (asserted_holdsOnly_iff asserted) (verified_holdsOnly_iff verified)⟩

end

/- The sample exchange over HTTP, with further values after its assertion and its key. -/
def exchangeTexts (services keys : List String) (key : String) : List String :=
  if key = rpcServiceIdentityAssertionMetadata then "orders" :: services
  else if key = rpcCallerContextMetadata then [orderSigned.encodedContext]
  else if key = rpcCallerContextSignatureMetadata then [orderSigned.signature]
  else if key = "idempotency-key" then "order-1" :: keys
  else []

def exchangeRequest (services keys : List String) : Request http where
  peerCerts := some [ordersLeaf]
  metadata := ⟨fun key => (exchangeTexts services keys key).filterMap (MetadataValue.tryFrom http)⟩
  extensions := ⟨none, none⟩

theorem exchange_reads {services keys more : List String} {key text : String}
    (token : Token text) (held : exchangeTexts services keys key = text :: more) :
    Reads (exchangeRequest services keys).metadata key (some text) := by
  have legal := (token.insertable http_headerRules).legal
  have written : MetadataValue.tryFrom http text = some ⟨bytes text, legal⟩ := dif_pos legal
  have first : (exchangeRequest services keys).metadata.get key = some ⟨bytes text, legal⟩ := by
    change ((exchangeTexts services keys key).filterMap _).head? = _
    rw [held, List.filterMap_cons_some written, List.head?_cons]
  rw [Reads, first, Option.map_some, token.toStr legal]
  rfl

theorem exchange_checks (services keys : List String) {now : SystemTime}
    (current : validateTimeWindow orderPayload now billing.maxClockSkew = .ok ()) :
    billingSecurity.checks ordersX509 orderCodec now (some [ordersLeaf])
      (exchangeRequest services keys).metadata =
        .ok (ordersIdentity, some orderPayload.verified) := by
  have service : Token "orders" := ⟨by decide, by decide⟩
  have key : Token "order-1" := ⟨by decide, by decide⟩
  have context : Token orderSigned.encodedContext := encode_token (by decide)
  have signature : Token orderSigned.signature := by
    rw [← encode_orderTag]
    exact encode_token (by decide)
  have accepted : Accepted orderCodec billing orderSigned ordersIdentity (some "order-1") now
      orderPayload orderKey orderTag :=
    { orderSigned_accepted with issuer := rfl, current := current }
  apply checks_pass ordersLeaf_identity
  · unfold validateOptionalServiceAssertion
    rw [optionalMetadata_reads (exchange_reads service (if_pos rfl))]
    rfl
  · exact verifyOptionalCallerContext_reads rfl
      (exchange_reads context rfl) (exchange_reads signature rfl) (exchange_reads key rfl)
      accepted.verify

theorem exchange_admitted (services keys : List String) :
    billingSecurity.outcome ordersX509 orderCodec ⟨1050 * 1000000000⟩
        (exchangeRequest services keys) =
      (.ok (), { exchangeRequest services keys with
        extensions := ⟨some ordersIdentity, some orderPayload.verified⟩ }) := by
  have chain : (exchangeRequest services keys).peerCerts = some [ordersLeaf] := rfl
  rw [outcome_checks, chain, exchange_checks services keys (by decide)]
  rfl

theorem repeated_alike_admitted :
    (billingSecurity.outcome ordersX509 orderCodec ⟨1050 * 1000000000⟩
      (exchangeRequest ["orders"] ["order-1"])).1 = .ok () ∧
    NothingSmuggled (exchangeRequest ["orders"] ["order-1"]).metadata ordersIdentity
      (some orderPayload.verified) := by
  have admitted := exchange_admitted ["orders"] ["order-1"]
  have returned := congrArg Prod.fst admitted
  obtain ⟨identity, context, -, -, injected, alike⟩ := nothing_smuggled_iff ordersX509 orderCodec
    billingSecurity ⟨1050 * 1000000000⟩ (exchangeRequest ["orders"] ["order-1"]) returned
  have fresh : (exchangeRequest ["orders"] ["order-1"]).extensions.callerContext = none := rfl
  rw [admitted, Extensions.inject, fresh, Option.or_none] at injected
  cases injected
  have services : ((exchangeRequest ["orders"] ["order-1"]).metadata.values
      rpcServiceIdentityAssertionMetadata).map MetadataValue.bytes =
        [bytes "orders", bytes "orders"] := by decide +kernel
  have keys : ((exchangeRequest ["orders"] ["order-1"]).metadata.values "idempotency-key").map
      MetadataValue.bytes = [bytes "order-1", bytes "order-1"] := by decide +kernel
  refine ⟨returned, alike.mpr ⟨?_, fun _ => ?_⟩⟩
  · rw [uniform_bytes, services]
    decide
  · rw [uniform_bytes, keys]
    decide

/-- The order service is admitted while it also asserts to be the payment service and sends a
key that was never signed. -/
theorem second_values_admitted :
    (billingSecurity.outcome ordersX509 orderCodec ⟨1050 * 1000000000⟩
      (exchangeRequest ["payments"] ["order-2"])).1 = .ok () ∧
    (billingSecurity.outcome ordersX509 orderCodec ⟨1050 * 1000000000⟩
      (exchangeRequest ["payments"] ["order-2"])).2.extensions =
        ⟨some ordersIdentity, some orderPayload.verified⟩ ∧
    ordersIdentity.serviceId = "orders" ∧ orderPayload.verified.idempotencyKey = some "order-1" ∧
    ((exchangeRequest ["payments"] ["order-2"]).metadata.values
      rpcServiceIdentityAssertionMetadata).map MetadataValue.bytes =
        [bytes "orders", bytes "payments"] ∧
    ((exchangeRequest ["payments"] ["order-2"]).metadata.values "idempotency-key").map
      MetadataValue.bytes = [bytes "order-1", bytes "order-2"] ∧
    ¬ HoldsOnly (exchangeRequest ["payments"] ["order-2"]).metadata
      rpcServiceIdentityAssertionMetadata (some ordersIdentity.serviceId) ∧
    ¬ HoldsOnly (exchangeRequest ["payments"] ["order-2"]).metadata "idempotency-key"
      orderPayload.verified.idempotencyKey := by
  have admitted := exchange_admitted ["payments"] ["order-2"]
  have services : ((exchangeRequest ["payments"] ["order-2"]).metadata.values
      rpcServiceIdentityAssertionMetadata).map MetadataValue.bytes =
        [bytes "orders", bytes "payments"] := by decide +kernel
  have keys : ((exchangeRequest ["payments"] ["order-2"]).metadata.values "idempotency-key").map
      MetadataValue.bytes = [bytes "order-1", bytes "order-2"] := by decide +kernel
  refine ⟨congrArg Prod.fst admitted, ?_, rfl, rfl, services, keys, ?_, ?_⟩
  · rw [admitted]
  · rw [holdsOnly_bytes, services]
    decide
  · rw [holdsOnly_bytes, keys]
    decide

end SdkworkRpc.Server
