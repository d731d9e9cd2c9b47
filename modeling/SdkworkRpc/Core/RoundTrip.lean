import SdkworkRpc.Core.Authenticity
import Mathlib.Data.Nat.Digits.Defs

/-! A context that was built, signed and presented again: exactly when `verify` accepts it
and what it then returns. -/
namespace SdkworkRpc.Core

open Machine Text

/-! ## A key and its text -/

theorem fromBase64url_iff {codec : Codec} {encoded : String} {key : RpcCallerContextSigningKey} :
    RpcCallerContextSigningKey.fromBase64url codec encoded = .ok key ↔
      codec.base64urlDecode encoded = some key.asBytes := by
  unfold RpcCallerContextSigningKey.fromBase64url
  cases codec.base64urlDecode encoded with
  | none => simp
  | some secret =>
    simp only [RpcCallerContextSigningKey.fromSecretBytes]
    split
    · rw [Except.ok.injEq, Option.some.injEq, RpcCallerContextSigningKey.mk.injEq]
    · rename_i other
      refine iff_of_false (fun made => by cases made) ?_
      intro same
      exact other (Option.some.inj same ▸ key.size)

theorem fromBase64url_encoded (codec : Codec) (key : RpcCallerContextSigningKey) :
    RpcCallerContextSigningKey.fromBase64url codec (codec.base64urlEncode key.asBytes) = .ok key :=
  fromBase64url_iff.mpr (codec.base64url_round key.asBytes)

/-! ## The signed text and its size -/

inductive JsonValue where
  | null
  | number (value : Int)
  | text (value : String)

def JsonValue.optional : Option String → JsonValue
  | none => null
  | some value => text value

def digitBytes (n : Nat) : List UInt8 := (Nat.toDigits 10 n).map fun c => c.val.toUInt8

/- No text here needs escaping. -/
def JsonValue.write : JsonValue → List UInt8
  | null => bytes "null"
  | number value => (if value < 0 then [45] else []) ++ digitBytes value.natAbs
  | text value => 34 :: bytes value ++ [34]

def actorKindName : RpcCallerActorKind → String
  | .user => "user"
  | .service => "service"

/- The fields in the order and under the names in which they are serialized. -/
def SignedRpcCallerContextPayload.members (p : SignedRpcCallerContextPayload) :
    List (String × JsonValue) :=
  [("version", .number p.version.toNat), ("issuerServiceId", .text p.issuerServiceId),
    ("audienceServiceId", .text p.audienceServiceId), ("tenantId", .text p.tenantId),
    ("organizationId", .text p.organizationId), ("actorId", .text p.actorId),
    ("actorKind", .text (actorKindName p.actorKind)), ("sessionId", .optional p.sessionId),
    ("requestId", .text p.requestId), ("traceId", .optional p.traceId),
    ("idempotencyKey", .optional p.idempotencyKey),
    ("issuedAtUnixSeconds", .number p.issuedAtUnixSeconds.val),
    ("expiresAtUnixSeconds", .number p.expiresAtUnixSeconds.val), ("nonce", .text p.nonce)]

def writeMember (member : String × JsonValue) : List UInt8 :=
  34 :: bytes member.1 ++ 34 :: 58 :: member.2.write

def writeMembers : List (String × JsonValue) → List UInt8
  | [] => []
  | [member] => writeMember member
  | member :: next :: rest => writeMember member ++ 44 :: writeMembers (next :: rest)

def SignedRpcCallerContextPayload.json (p : SignedRpcCallerContextPayload) : List UInt8 :=
  123 :: writeMembers p.members ++ [125]

/-- Every string of the payload is an identifier, as in everything that is ever signed. -/
structure SignedRpcCallerContextPayload.Plain (p : SignedRpcCallerContextPayload) : Prop where
  issuer : Identifier p.issuerServiceId
  audience : Identifier p.audienceServiceId
  tenant : Identifier p.tenantId
  organization : Identifier p.organizationId
  actor : Identifier p.actorId
  session : ∀ value, p.sessionId = some value → Identifier value
  request : Identifier p.requestId
  trace : ∀ value, p.traceId = some value → Identifier value
  idempotency : ∀ value, p.idempotencyKey = some value → Identifier value
  nonce : Identifier p.nonce

/- What the libraries do, beyond the round trips: base64url without padding, compact JSON
without escapes where none is needed, and tags of 32 bytes that verify. -/
structure Standard (codec : Codec) : Prop where
  base64url : codec.base64urlEncode = Base64url.encode
  json : ∀ payload serialized, payload.Plain → codec.toVec payload = .ok serialized →
    serialized = payload.json
  hmac : ∀ message key, ∃ tag : List UInt8, tag.length = 32 ∧
    codec.hmacSha256Base64url message key = codec.base64urlEncode tag ∧
    codec.verifyHmacSha256Base64url message key tag = true

theorem number_short {value : Int} (lower : -2 ^ 63 ≤ value) (upper : value < 2 ^ 63) :
    (JsonValue.number value).write.length ≤ 20 := by
  have digits : (digitBytes value.natAbs).length ≤ 19 := by
    rw [digitBytes, List.length_map]
    exact Nat.toDigits_length 10 _ 19 (by decide) (by omega)
  simp only [JsonValue.write, List.length_append]
  split
  · simp only [List.length_singleton]
    omega
  · simp only [List.length_nil]
    omega

theorem text_short {value : String} (identifier : Identifier value) :
    (JsonValue.text value).write.length ≤ 130 := by
  have short := identifier.short
  simp only [JsonValue.write, List.cons_append, List.length_cons, List.length_append,
    List.length_nil]
  omega

theorem optional_short {value : Option String}
    (identifier : ∀ text, value = some text → Identifier text) :
    (JsonValue.optional value).write.length ≤ 130 := by
  cases value with
  | none => decide
  | some text => exact text_short (identifier text rfl)

theorem actorKindName_identifier (kind : RpcCallerActorKind) :
    Identifier (actorKindName kind) := by
  cases kind with
  | user => exact validateIdentifier_ok.mp (by decide : validateIdentifier "" "user" = .ok ())
  | service => exact validateIdentifier_ok.mp (by decide : validateIdentifier "" "service" = .ok ())

theorem members_short {p : SignedRpcCallerContextPayload} (plain : p.Plain) :
    ∀ member ∈ p.members, (writeMember member).length ≤ 153 := by
  have names : ∀ member ∈ p.members, (bytes member.1).length ≤ 20 := by
    simp only [SignedRpcCallerContextPayload.members, List.forall_mem_cons]
    decide
  have values : ∀ member ∈ p.members, member.2.write.length ≤ 130 := by
    have number : ∀ value : I64, (JsonValue.number value.val).write.length ≤ 130 := fun value =>
      (number_short value.lower value.upper).trans (by decide)
    have version : (JsonValue.number p.version.toNat).write.length ≤ 130 := by
      have small := p.version.toNat_lt
      exact (number_short (by omega) (by omega)).trans (by decide)
    simp only [SignedRpcCallerContextPayload.members, List.forall_mem_cons]
    exact ⟨version, text_short plain.issuer, text_short plain.audience, text_short plain.tenant,
      text_short plain.organization, text_short plain.actor,
      text_short (actorKindName_identifier _), optional_short plain.session,
      text_short plain.request, optional_short plain.trace, optional_short plain.idempotency,
      number _, number _, text_short plain.nonce, nofun⟩
  intro member listed
  have name := names member listed
  have value := values member listed
  simp only [writeMember, List.cons_append, List.length_cons, List.length_append]
  omega

theorem writeMembers_length {size : Nat} {members : List (String × JsonValue)}
    (short : ∀ member ∈ members, (writeMember member).length ≤ size) :
    (writeMembers members).length ≤ members.length * (size + 1) := by
  induction members using writeMembers.induct with
  | case1 => exact Nat.zero_le _
  | case2 member =>
    have only := short member List.mem_cons_self
    simp only [writeMembers, List.length_singleton]
    omega
  | case3 member next rest ih =>
    have first := short member List.mem_cons_self
    have others := ih fun member later => short member (List.mem_cons_of_mem _ later)
    simp only [writeMembers, List.length_append, List.length_cons] at others ⊢
    rw [Nat.succ_mul (rest.length + 1)]
    omega

theorem json_length {p : SignedRpcCallerContextPayload} (plain : p.Plain) :
    p.json.length ≤ 2158 := by
  have short := writeMembers_length (members_short plain)
  simp only [SignedRpcCallerContextPayload.json, List.cons_append, List.length_cons,
    List.length_append, List.length_nil]
  have count : p.members.length = 14 := rfl
  rw [count] at short
  omega

/-! ## What the builder and the signer guarantee -/

/-- What `build` has checked in the contexts it returns. -/
structure RpcCallerContext.Built (c : RpcCallerContext) : Prop where
  tenant : Identifier c.tenantId
  organization : Identifier c.organizationId
  actor : Identifier c.actorId
  request : Identifier c.requestId
  audience : Identifier c.audienceServiceId
  session : ∀ value, c.sessionId = some value → Identifier value
  trace : ∀ value, c.traceId = some value → Identifier value
  idempotency : ∀ value, c.idempotencyKey = some value → Identifier value
  userSession : (!(c.actorKind == .user && c.sessionId.isNone)) = true

theorem requiredIdentifier_ok {field value : String} {given : Option String}
    (passed : requiredIdentifier field given = .ok value) : Identifier value := by
  obtain ⟨text, -, passed⟩ := bind_ok passed
  obtain ⟨_, valid, passed⟩ := bind_ok passed
  cases passed
  exact validateIdentifier_ok.mp valid

theorem optionalIdentifier_ok {field : String} {given value : Option String}
    (passed : optionalIdentifier field given = .ok value) :
    ∀ text, value = some text → Identifier text := by
  cases given with
  | none =>
    cases passed
    intro text absent
    cases absent
  | some text =>
    obtain ⟨checked, check, passed⟩ := bind_ok passed
    obtain ⟨_, valid, same⟩ := bind_ok check
    cases same
    cases passed
    rintro _ ⟨⟩
    exact validateIdentifier_ok.mp valid

theorem build_ok {builder : RpcCallerContextBuilder} {c : RpcCallerContext}
    (built : builder.build = .ok c) : c.Built := by
  unfold RpcCallerContextBuilder.build at built
  obtain ⟨tenantId, tenant, built⟩ := bind_ok built
  obtain ⟨organizationId, organization, built⟩ := bind_ok built
  obtain ⟨actorId, actor, built⟩ := bind_ok built
  obtain ⟨actorKind, -, built⟩ := bind_ok built
  obtain ⟨requestId, request, built⟩ := bind_ok built
  obtain ⟨audienceServiceId, audience, built⟩ := bind_ok built
  obtain ⟨sessionId, session, built⟩ := bind_ok built
  obtain ⟨traceId, trace, built⟩ := bind_ok built
  obtain ⟨idempotencyKey, idempotency, built⟩ := bind_ok built
  obtain ⟨_, userSession, built⟩ := bind_ok built
  cases built
  exact ⟨requiredIdentifier_ok tenant, requiredIdentifier_ok organization,
    requiredIdentifier_ok actor, requiredIdentifier_ok request, requiredIdentifier_ok audience,
    optionalIdentifier_ok session, optionalIdentifier_ok trace, optionalIdentifier_ok idempotency,
    ensure_ok userSession⟩

def lowerHexDigit (c : Char) : Bool :=
  ('0'.toNat ≤ c.toNat && c.toNat ≤ '9'.toNat) || ('a'.toNat ≤ c.toNat && c.toNat ≤ 'f'.toNat)

/-- The simple form of a UUID: 32 hexadecimal digits in lower case. -/
structure SimpleUuid (nonce : String) : Prop where
  size : nonce.toList.length = 32
  hex : ∀ c ∈ nonce.toList, lowerHexDigit c = true

def RpcCallerContextSigner.payload (signer : RpcCallerContextSigner) (c : RpcCallerContext)
    (issuedAt expiresAt : I64) (nonce : String) : SignedRpcCallerContextPayload :=
  ⟨callerContextVersion, signer.issuerServiceId, c.audienceServiceId, c.tenantId,
    c.organizationId, c.actorId, c.actorKind, c.sessionId, c.requestId, c.traceId,
    c.idempotencyKey, issuedAt, expiresAt, nonce⟩

theorem ofInt?_val {x : Int} {a : I64} (held : I64.ofInt? x = some a) : a.val = x := by
  unfold I64.ofInt? at held
  split at held
  · cases held
    rfl
  · cases held

theorem ofInt?_some {x : Int} (lower : -2 ^ 63 ≤ x) (upper : x < 2 ^ 63) :
    ∃ a, I64.ofInt? x = some a ∧ a.val = x :=
  ⟨⟨x, lower, upper⟩, dif_pos ⟨lower, upper⟩, rfl⟩

structure Issued (codec : Codec) (signer : RpcCallerContextSigner) (c : RpcCallerContext)
    (ttl : Duration) (now : SystemTime) (nonce : String) (signed : SignedRpcCallerContext)
    (issuedAt expiresAt : I64) : Prop where
  bounded : ttl.nanos ≤ signer.maxTtl.nanos
  issued : unixSeconds now = .ok issuedAt
  expires : expiresAt.val = issuedAt.val + ttl.asSecs
  written : ∃ serialized, codec.toVec (signer.payload c issuedAt expiresAt nonce) = .ok serialized ∧
    signed.encodedContext = codec.base64urlEncode serialized
  tagged : signed.signature = codec.hmacSha256Base64url
    (bytes (signingInput signed.encodedContext)) signer.signingKey.asBytes

theorem signAt_issued {codec : Codec} {signer : RpcCallerContextSigner} {c : RpcCallerContext}
    {ttl : Duration} {now : SystemTime} {nonce : String} {signed : SignedRpcCallerContext}
    (succeeded : signer.signAt codec c ttl now nonce = .ok signed) :
    ∃ issuedAt expiresAt, Issued codec signer c ttl now nonce signed issuedAt expiresAt := by
  unfold RpcCallerContextSigner.signAt at succeeded
  obtain ⟨_, bounded, succeeded⟩ := bind_ok succeeded
  obtain ⟨issuedAt, issued, succeeded⟩ := bind_ok succeeded
  obtain ⟨seconds, whole, succeeded⟩ := bind_ok succeeded
  obtain ⟨expiresAt, expires, succeeded⟩ := bind_ok succeeded
  obtain ⟨serialized, written, succeeded⟩ := bind_ok succeeded
  cases succeeded
  refine ⟨issuedAt, expiresAt, ?_, issued, ?_, ⟨serialized, mapError_ok written, rfl⟩, rfl⟩
  · have allowed := ensure_ok bounded
    simp only [Bool.not_eq_true', Bool.or_eq_false_iff, decide_eq_false_iff_not, Nat.not_lt]
      at allowed
    exact allowed.2
  · rw [ofInt?_val (orInvalid_ok expires), ofInt?_val (orInvalid_ok whole)]

theorem signAt_writes {codec : Codec} {signer : RpcCallerContextSigner} {c : RpcCallerContext}
    {ttl : Duration} {now : SystemTime} {nonce : String} {issuedAt seconds expiresAt : I64}
    {serialized : List UInt8}
    (allowed : (!(ttl.isZero || ttl.nanos > signer.maxTtl.nanos)) = true)
    (issued : unixSeconds now = .ok issuedAt) (whole : I64.ofInt? ttl.asSecs = some seconds)
    (expires : issuedAt.checkedAdd seconds = some expiresAt)
    (written : codec.toVec (signer.payload c issuedAt expiresAt nonce) = .ok serialized) :
    signer.signAt codec c ttl now nonce = .ok ⟨codec.base64urlEncode serialized,
      codec.hmacSha256Base64url (bytes (signingInput (codec.base64urlEncode serialized)))
        signer.signingKey.asBytes⟩ := by
  unfold RpcCallerContextSigner.payload at written
  unfold RpcCallerContextSigner.signAt
  simp only [allowed, issued, whole, expires, written, ensure_true, orInvalid_some, ok_bind,
    ok_mapError]
  rfl

theorem hex_char : ∀ n < 128, lowerHexDigit (Char.ofNat n) = true →
    (Char.ofNat n).utf8Size = 1 ∧ identifierByte (Char.ofNat n).val.toUInt8 = true := by
  decide

theorem lowerHexDigit_char {c : Char} (hex : lowerHexDigit c = true) :
    c.utf8Size = 1 ∧ identifierByte c.val.toUInt8 = true := by
  have small : c.toNat < 128 := by
    simp only [lowerHexDigit, Bool.or_eq_true, Bool.and_eq_true, decide_eq_true_eq] at hex
    have nine : '9'.toNat = 57 := rfl
    have f : 'f'.toNat = 102 := rfl
    omega
  have known := hex_char c.toNat small
  rw [Char.ofNat_toNat] at known
  exact known hex

theorem SimpleUuid.identifier {nonce : String} (uuid : SimpleUuid nonce) : Identifier nonce := by
  have written : bytes nonce = nonce.toList.map fun c => c.val.toUInt8 := by
    conv_lhs => rw [← String.ofList_toList (s := nonce)]
    exact bytes_of_ascii fun c member => (lowerHexDigit_char (uuid.hex c member)).1
  constructor
  · rw [String.isEmpty_eq_false_iff]
    rintro rfl
    cases uuid.size
  · rw [written, List.length_map, uuid.size]
    decide
  · rw [written, List.all_map, List.all_eq_true]
    intro c member
    exact (lowerHexDigit_char (uuid.hex c member)).2

theorem validateFields_ok {fields : List (String × Option String)} :
    validateFields fields = .ok () ↔
      ∀ field ∈ fields, ∀ value, field.2 = some value → Identifier value := by
  induction fields with
  | nil => exact ⟨fun _ => nofun, fun _ => rfl⟩
  | cons field rest ih =>
    obtain ⟨name, given⟩ := field
    rw [List.forall_mem_cons, ← ih]
    cases given with
    | none => exact ⟨fun passed => ⟨nofun, passed⟩, And.right⟩
    | some value =>
      simp only [validateFields, Option.some.injEq, forall_eq']
      constructor
      · intro passed
        obtain ⟨_, first, later⟩ := bind_ok passed
        exact ⟨validateIdentifier_ok.mp first, later⟩
      · rintro ⟨first, later⟩
        rw [validateIdentifier_ok.mpr first, ok_bind, later]

structure SignedRpcCallerContextPayload.Acceptable (p : SignedRpcCallerContextPayload) : Prop
    where
  version : p.version = callerContextVersion
  plain : p.Plain
  userSession : (!(p.actorKind == .user && p.sessionId.isNone)) = true

/-- The checked difference and its conversion decide as the difference of the two times
does: one that overflows is no lifetime between one and 300 seconds anyway. -/
theorem lifetime_ok {issuedAt expiresAt : I64} :
    (∃ span, expiresAt.checkedSub issuedAt = some span ∧
      (!(span.val ≤ 0 || span.toU64?.all fun value => value > maxCallerContextTtl.asSecs)) =
        true) ↔
      0 < expiresAt.val - issuedAt.val ∧ expiresAt.val - issuedAt.val ≤ 300 := by
  have limit : maxCallerContextTtl.asSecs = 300 := by decide
  have allowed : ∀ span : I64, (!(span.val ≤ 0 ||
      span.toU64?.all fun value => value > maxCallerContextTtl.asSecs)) = true ↔
        0 < span.val ∧ span.val ≤ 300 := by
    intro span
    rw [limit]
    by_cases positive : 0 < span.val
    · simp only [I64.toU64?, if_pos positive.le, Option.all_some, Bool.not_eq_true',
        Bool.or_eq_false_iff, decide_eq_false_iff_not]
      omega
    · simp only [Bool.not_eq_true', Bool.or_eq_false_iff, decide_eq_false_iff_not]
      omega
  constructor
  · rintro ⟨span, whole, bounded⟩
    rw [← ofInt?_val whole]
    exact (allowed span).mp bounded
  · intro bounded
    obtain ⟨span, whole, length⟩ :=
      @ofInt?_some (expiresAt.val - issuedAt.val) (by omega) (by omega)
    exact ⟨span, whole, (allowed span).mpr (by rw [length]; exact bounded)⟩

theorem validatePayload_ok {p : SignedRpcCallerContextPayload} :
    validatePayload p maxCallerContextTtl = .ok () ↔
      p.Acceptable ∧ 0 < p.expiresAtUnixSeconds.val - p.issuedAtUnixSeconds.val ∧
        p.expiresAtUnixSeconds.val - p.issuedAtUnixSeconds.val ≤ 300 := by
  rw [← lifetime_ok]
  constructor
  · intro passed
    obtain ⟨_, version, passed⟩ := bind_ok passed
    obtain ⟨_, required, passed⟩ := bind_ok passed
    obtain ⟨_, userSession, passed⟩ := bind_ok passed
    obtain ⟨_, optional, passed⟩ := bind_ok passed
    obtain ⟨span, whole, bounded⟩ := bind_ok passed
    have required := validateFields_ok.mp required
    have optional := validateFields_ok.mp optional
    simp only [List.forall_mem_cons, Option.some.injEq, forall_eq'] at required optional
    obtain ⟨issuer, audience, tenant, organization, actor, request, nonce, _⟩ := required
    obtain ⟨session, trace, idempotency, _⟩ := optional
    exact ⟨⟨eq_of_beq (ensure_ok version), ⟨issuer, audience, tenant, organization, actor, session,
      request, trace, idempotency, nonce⟩, ensure_ok userSession⟩, span, orInvalid_ok whole,
      ensure_ok bounded⟩
  · rintro ⟨⟨version, plain, userSession⟩, span, whole, bounded⟩
    have required : validateFields [("issuer_service_id", some p.issuerServiceId),
        ("audience_service_id", some p.audienceServiceId), ("tenant_id", some p.tenantId),
        ("organization_id", some p.organizationId), ("actor_id", some p.actorId),
        ("request_id", some p.requestId), ("nonce", some p.nonce)] = .ok () := by
      apply validateFields_ok.mpr
      simp only [List.forall_mem_cons, Option.some.injEq, forall_eq']
      exact ⟨plain.issuer, plain.audience, plain.tenant, plain.organization, plain.actor,
        plain.request, plain.nonce, nofun⟩
    have optional : validateFields [("session_id", p.sessionId), ("trace_id", p.traceId),
        ("idempotency_key", p.idempotencyKey)] = .ok () := by
      apply validateFields_ok.mpr
      simp only [List.forall_mem_cons]
      exact ⟨plain.session, plain.trace, plain.idempotency, nofun⟩
    simp only [validatePayload, beq_iff_eq.mpr version, required, userSession, optional, whole,
      bounded, ensure_true, orInvalid_some, ok_bind]

theorem unixSeconds_nonneg {now : SystemTime} {n : I64} (read : unixSeconds now = .ok n) :
    0 ≤ n.val := by
  unfold unixSeconds at read
  split at read
  · cases read
  · rename_i after
    rw [ofInt?_val (orInvalid_ok read)]
    exact Int.ediv_nonneg (Int.not_lt.mp after) (by decide)

/-- Saturation never shows: the sum is only compared with a time below it, and no time
lies before the epoch. -/
theorem window_sums (issuedAt expiresAt n skew : I64) (thirty : skew.val = 30)
    (after : 0 ≤ n.val) :
    (issuedAt.val ≤ (n.saturatingAdd skew).val ↔ issuedAt.val - 30 ≤ n.val) ∧
      ((n.saturatingSub skew).val ≤ expiresAt.val ↔ n.val ≤ expiresAt.val + 30) := by
  have issuedUpper := issuedAt.upper
  have nUpper := n.upper
  simp only [I64.saturatingAdd, I64.saturatingSub, I64.clamp, thirty]
  omega

theorem validateTimeWindow_ok {payload : SignedRpcCallerContextPayload} {now : SystemTime}
    {n : I64} (read : unixSeconds now = .ok n) :
    validateTimeWindow payload now maxClockSkew = .ok () ↔
      payload.issuedAtUnixSeconds.val - 30 ≤ n.val ∧
        n.val ≤ payload.expiresAtUnixSeconds.val + 30 := by
  have skew : I64.ofInt? maxClockSkew.asSecs = some ⟨30, by decide, by decide⟩ := by decide
  have sums := window_sums payload.issuedAtUnixSeconds payload.expiresAtUnixSeconds n
    ⟨30, by decide, by decide⟩ rfl (unixSeconds_nonneg read)
  rw [← sums.1, ← sums.2]
  simp only [validateTimeWindow, read, skew, orInvalid_some, ok_bind]
  constructor
  · intro passed
    obtain ⟨_, started, ended⟩ := bind_ok passed
    have started := ensure_ok started
    have ended := ensure_ok ended
    simp only [Bool.not_eq_true', decide_eq_false_iff_not, Int.not_lt, gt_iff_lt] at started ended
    exact ⟨started, ended⟩
  · intro within
    simp only [gt_iff_lt, Int.not_lt.mpr within.1, Int.not_lt.mpr within.2, decide_false,
      Bool.not_false, ensure_true, ok_bind]

theorem signer_new_ok {issuer : String} {key : RpcCallerContextSigningKey}
    {signer : RpcCallerContextSigner} (made : RpcCallerContextSigner.new issuer key = .ok signer) :
    Identifier issuer ∧ signer = ⟨issuer, key, maxCallerContextTtl⟩ := by
  obtain ⟨_, valid, made⟩ := bind_ok made
  cases made
  exact ⟨validateIdentifier_ok.mp valid, rfl⟩

theorem verifier_new_ok {audience : String} {keys : List (String × RpcCallerContextSigningKey)}
    {verifier : RpcCallerContextVerifier}
    (made : RpcCallerContextVerifier.new audience keys = .ok verifier) :
    verifier.maxTtl = maxCallerContextTtl ∧ verifier.maxClockSkew = maxClockSkew := by
  unfold RpcCallerContextVerifier.new at made
  obtain ⟨_, -, made⟩ := bind_ok made
  obtain ⟨collected, -, made⟩ := bind_ok made
  split at made
  · cases made
  · cases made
    exact ⟨rfl, rfl⟩

/-! ## Acceptance -/

section

variable {codec : Codec} {signer : RpcCallerContextSigner} {c : RpcCallerContext} {ttl : Duration}
  {now : SystemTime} {nonce : String} {signed : SignedRpcCallerContext} {issuedAt expiresAt : I64}

theorem payload_plain (built : c.Built) (issuer : Identifier signer.issuerServiceId)
    (uuid : SimpleUuid nonce) : (signer.payload c issuedAt expiresAt nonce).Plain :=
  ⟨issuer, built.audience, built.tenant, built.organization, built.actor, built.session,
    built.request, built.trace, built.idempotency, uuid.identifier⟩

theorem second_iff (ttl : Duration) : (Duration.fromSecs 1).nanos ≤ ttl.nanos ↔ 1 ≤ ttl.asSecs := by
  have second : (Duration.fromSecs 1).nanos = 1 * 1000000000 := by decide
  rw [second, Duration.asSecs, Nat.le_div_iff_mul_le (by decide)]

theorem most_seconds (most : ttl.nanos ≤ maxCallerContextTtl.nanos) : ttl.asSecs ≤ 300 :=
  Nat.div_le_of_le_mul (most.trans (by decide))

theorem validatePayload_signed (built : c.Built) (issuer : Identifier signer.issuerServiceId)
    (uuid : SimpleUuid nonce) (expires : expiresAt.val = issuedAt.val + ttl.asSecs) :
    validatePayload (signer.payload c issuedAt expiresAt nonce) maxCallerContextTtl = .ok () ↔
      1 ≤ ttl.asSecs ∧ ttl.asSecs ≤ 300 := by
  have acceptable : (signer.payload c issuedAt expiresAt nonce).Acceptable :=
    ⟨rfl, payload_plain built issuer uuid, built.userSession⟩
  have span : expiresAt.val - issuedAt.val = ttl.asSecs := by omega
  rw [validatePayload_ok, and_iff_right acceptable]
  simp only [RpcCallerContextSigner.payload, span]
  omega

theorem issued_fits (standard : Standard codec)
    (plain : (signer.payload c issuedAt expiresAt nonce).Plain)
    (issued : Issued codec signer c ttl now nonce signed issuedAt expiresAt) :
    (!((bytes signed.encodedContext).length > maxContextMetadataBytes ||
      (bytes signed.signature).length > maxContextMetadataBytes)) = true := by
  obtain ⟨serialized, written, encoded⟩ := issued.written
  obtain ⟨tag, size, text, -⟩ := standard.hmac (bytes (signingInput signed.encodedContext))
    signer.signingKey.asBytes
  apply metadata_fits
  · rw [encoded, standard.base64url, Base64url.bytes_encode_length,
      standard.json _ _ plain written, maxContextMetadataBytes]
    have small := json_length plain
    omega
  · rw [issued.tagged, text, standard.base64url, Base64url.bytes_encode_length, size]
    decide

theorem issued_decodes (issued : Issued codec signer c ttl now nonce signed issuedAt expiresAt) :
    (codec.base64urlDecode signed.encodedContext).bind codec.fromSlice =
      some (signer.payload c issuedAt expiresAt nonce) := by
  obtain ⟨serialized, written, encoded⟩ := issued.written
  rw [encoded, codec.base64url_round]
  exact codec.json_round _ _ written

variable {verifier : RpcCallerContextVerifier} {peer : VerifiedRpcServiceIdentity}
  {metadataKey : Option String} {later : SystemTime} {n : I64}

/-- What a receiver still decides about a context that was signed: whether it is meant, who
presents it, with which key of its own, and when. -/
structure Presented (verifier : RpcCallerContextVerifier) (signer : RpcCallerContextSigner)
    (c : RpcCallerContext) (peer : VerifiedRpcServiceIdentity) (metadataKey : Option String)
    (issuedAt expiresAt n : Int) : Prop where
  audience : verifier.audienceServiceId = c.audienceServiceId
  issuer : peer.serviceId = signer.issuerServiceId
  idempotency : metadataKey = c.idempotencyKey
  started : issuedAt - 30 ≤ n
  ended : n ≤ expiresAt + 30

theorem verify_issued_iff (standard : Standard codec) (built : c.Built)
    (issuer : Identifier signer.issuerServiceId) (uuid : SimpleUuid nonce)
    (bound : signer.maxTtl = maxCallerContextTtl)
    (least : (Duration.fromSecs 1).nanos ≤ ttl.nanos)
    (issued : Issued codec signer c ttl now nonce signed issuedAt expiresAt)
    (limits : verifier.maxTtl = maxCallerContextTtl ∧ verifier.maxClockSkew = maxClockSkew)
    (trusts : verifier.issuerKeys signer.issuerServiceId = some signer.signingKey)
    (read : unixSeconds later = .ok n) (v : VerifiedRpcCallerContext) :
    verifier.verify codec signed peer metadataKey later = .ok v ↔
      Presented verifier signer c peer metadataKey issuedAt.val expiresAt.val n.val ∧
        v = (signer.payload c issuedAt expiresAt nonce).verified := by
  constructor
  · intro accepted
    obtain ⟨payload, key, tag, rfl, checks⟩ := verify_ok accepted
    have same := Option.some.inj (checks.decoded.symm.trans (issued_decodes issued))
    subst same
    have current := checks.current
    rw [limits.2, validateTimeWindow_ok read] at current
    exact ⟨⟨checks.audience.symm, checks.issuer.symm, checks.idempotency, current.1, current.2⟩,
      rfl⟩
  · rintro ⟨presented, rfl⟩
    have most := bound ▸ issued.bounded
    obtain ⟨tag, -, text, verifies⟩ := standard.hmac (bytes (signingInput signed.encodedContext))
      signer.signingKey.asBytes
    apply @Accepted.verify codec verifier signed peer metadataKey later _ signer.signingKey tag
    constructor
    · exact issued_fits standard (payload_plain built issuer uuid) issued
    · exact issued_decodes issued
    · rw [limits.1]
      exact (validatePayload_signed built issuer uuid issued.expires).mpr
        ⟨(second_iff ttl).mp least, most_seconds most⟩
    · exact presented.audience.symm
    · exact presented.issuer.symm
    · exact trusts
    · rw [issued.tagged, text, codec.base64url_round]
    · exact verifies
    · rw [limits.2, validateTimeWindow_ok read]
      exact ⟨presented.started, presented.ended⟩
    · exact presented.idempotency

/- For every context that was built, signer, lifetime of a second or more, verifier that
knows the signer's key, peer, key of the request and time. The whole seconds of the lifetime
count; thirty seconds of skew are allowed on both sides. -/
theorem signed_context_accepted_iff (codec : Codec) (standard : Standard codec)
    (builder : RpcCallerContextBuilder) (c : RpcCallerContext) (built : builder.build = .ok c)
    (issuer : String) (key : RpcCallerContextSigningKey) (signer : RpcCallerContextSigner)
    (made : RpcCallerContextSigner.new issuer key = .ok signer) (ttl : Duration)
    (least : (Duration.fromSecs 1).nanos ≤ ttl.nanos) (now : SystemTime) (nonce : String)
    (uuid : SimpleUuid nonce) (signed : SignedRpcCallerContext)
    (succeeded : signer.signAt codec c ttl now nonce = .ok signed) (audience : String)
    (keys : List (String × RpcCallerContextSigningKey)) (verifier : RpcCallerContextVerifier)
    (opened : RpcCallerContextVerifier.new audience keys = .ok verifier)
    (trusts : verifier.issuerKeys issuer = some key) (peer : VerifiedRpcServiceIdentity)
    (metadataKey : Option String) (later : SystemTime) (n : I64)
    (read : unixSeconds later = .ok n) :
    ∃ i : I64, unixSeconds now = .ok i ∧
      ((∃ v, verifier.verify codec signed peer metadataKey later = .ok v) ↔
        verifier.audienceServiceId = c.audienceServiceId ∧ peer.serviceId = issuer ∧
          metadataKey = c.idempotencyKey ∧ i.val - 30 ≤ n.val ∧
          n.val ≤ i.val + ttl.asSecs + 30) ∧
      ∀ v, verifier.verify codec signed peer metadataKey later = .ok v →
        v.callerContext = c ∧ v.issuerServiceId = issuer ∧ v.issuedAtUnixSeconds = i ∧
          v.expiresAtUnixSeconds.val = i.val + ttl.asSecs ∧ v.nonce = nonce := by
  obtain ⟨identifier, rfl⟩ := signer_new_ok made
  obtain ⟨issuedAt, expiresAt, issued⟩ := signAt_issued succeeded
  have accepts := @verify_issued_iff codec _ c ttl now nonce signed issuedAt expiresAt verifier
    peer metadataKey later n standard (build_ok built) identifier uuid rfl least issued
    (verifier_new_ok opened) trusts read
  refine ⟨issuedAt, issued.issued, ?_, ?_⟩
  · rw [← issued.expires]
    constructor
    · rintro ⟨v, accepted⟩
      obtain ⟨presented, -⟩ := (accepts v).mp accepted
      exact ⟨presented.audience, presented.issuer, presented.idempotency, presented.started,
        presented.ended⟩
    · rintro ⟨meant, presenter, same, started, ended⟩
      exact ⟨_, (accepts _).mpr ⟨⟨meant, presenter, same, started, ended⟩, rfl⟩⟩
  · intro v accepted
    obtain ⟨-, rfl⟩ := (accepts v).mp accepted
    exact ⟨rfl, rfl, rfl, issued.expires, rfl⟩

end

/- The sample exchange again, with a tag of 32 bytes for every message. -/
def orderBuilder : RpcCallerContextBuilder :=
  ⟨some "t1", some "o1", some "batch", some .service, none, some "r1", none, some "order-1",
    some "billing"⟩

def sampleTag (message key : List UInt8) : List UInt8 :=
  if message = orderMessage ∧ key = orderKey.asBytes then orderTag else List.replicate 32 0

def tagCodec : Codec :=
  { orderCodec with
    hmacSha256Base64url := fun message key => Base64url.encode (sampleTag message key)
    verifyHmacSha256Base64url := fun message key tag => tag = sampleTag message key }

theorem orderJson_eq : orderJson = orderPayload.json := by decide +kernel

theorem tagCodec_standard : Standard tagCodec := by
  constructor
  · rfl
  · intro payload serialized _ written
    change (if payload = orderPayload then Except.ok orderJson else .error "unknown payload") =
      .ok serialized at written
    split at written
    · rename_i known
      cases written
      rw [known]
      exact orderJson_eq
    · cases written
  · intro message key
    refine ⟨sampleTag message key, ?_, rfl, decide_eq_true rfl⟩
    unfold sampleTag
    split
    · rfl
    · rfl

theorem orderNonce_uuid : SimpleUuid orderNonce :=
  ⟨by decide, List.all_eq_true.mp (by decide)⟩

theorem tagCodec_signs : orderCall.result tagCodec = .ok orderSigned := by
  have tags : tagCodec.hmacSha256Base64url orderMessage orderKey.asBytes =
      orderSigned.signature := by
    simp only [tagCodec, sampleTag, and_self, if_true, encode_orderTag]
  exact orderCall_signed rfl orderCodec_toVec tags

theorem signed_context_accepted_order :
    ∃ verifier, RpcCallerContextVerifier.new "billing" [("orders", orderKey)] = .ok verifier ∧
      (∃ v, verifier.verify tagCodec orderSigned ordersPeer (some "order-1")
        ⟨1090 * 1000000000⟩ = .ok v ∧ v.callerContext = orderContext) ∧
      ¬ ∃ v, verifier.verify tagCodec orderSigned ordersPeer (some "order-1")
        ⟨1091 * 1000000000⟩ = .ok v := by
  have exchange := fun later n read => signed_context_accepted_iff tagCodec tagCodec_standard
    orderBuilder orderContext rfl "orders" orderKey orderCall.signer rfl (.fromSecs 60)
    (by decide) orderCall.now orderNonce orderNonce_uuid orderSigned tagCodec_signs "billing"
    [("orders", orderKey)] _ rfl rfl ordersPeer (some "order-1") later n read
  refine ⟨_, rfl, ?_, ?_⟩
  · obtain ⟨i, issued, accepts, carries⟩ := exchange ⟨1090 * 1000000000⟩
      ⟨1090, by decide, by decide⟩ (by decide)
    cases (Except.ok.inj issued : ⟨1000, by decide, by decide⟩ = i)
    obtain ⟨v, accepted⟩ := accepts.mpr ⟨rfl, rfl, rfl, by decide, by decide⟩
    exact ⟨v, accepted, (carries v accepted).1⟩
  · obtain ⟨i, issued, accepts, -⟩ := exchange ⟨1091 * 1000000000⟩
      ⟨1091, by decide, by decide⟩ (by decide)
    cases (Except.ok.inj issued : ⟨1000, by decide, by decide⟩ = i)
    intro accepted
    exact absurd (accepts.mp accepted).2.2.2.2 (by decide)

end SdkworkRpc.Core
