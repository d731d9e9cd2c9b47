import SdkworkRpc.Core.RoundTrip
import SdkworkRpc.Client.Metadata

/-! The signed credential that a client puts into the metadata of an internal call. -/
namespace SdkworkRpc.Client

open Machine Text SdkworkRpc.Core

structure RpcServiceCredential where
  signedCallerContext : SignedRpcCallerContext
  idempotencyKey : Option String
  deriving DecidableEq

structure SignedRpcServiceCredentialProvider where
  signer : RpcCallerContextSigner
  ttl : Duration

def SignedRpcServiceCredentialProvider.new (signer : RpcCallerContextSigner) (ttl : Duration) :
    RpcFrameworkResult SignedRpcServiceCredentialProvider :=
  if ttl.isZero || ttl.nanos > (Duration.fromSecs 300).nanos then
    .error (.configuration "rpc service credential ttl must be between 1 second and 300 seconds")
  else .ok ⟨signer, ttl⟩

/- The clock and the nonce are those `sign` takes for itself. -/
def SignedRpcServiceCredentialProvider.issue (codec : Codec)
    (provider : SignedRpcServiceCredentialProvider) (callerContext : RpcCallerContext)
    (now : SystemTime) (nonce : String) : RpcFrameworkResult RpcServiceCredential := do
  let signedCallerContext ← provider.signer.signAt codec callerContext provider.ttl now nonce
  pure ⟨signedCallerContext, callerContext.idempotencyKey⟩

def validateBoundIdempotencyMetadata {t : Tonic} (names : MetadataNames) (metadata : MetadataMap t)
    (expected : Option String) : RpcFrameworkResult Unit := do
  let actual ← match metadata.get names.idempotencyKey with
    | none => .ok none
    | some value => do
      let text ← orInvalid value.toStr "existing RPC idempotency metadata is not valid ASCII"
      pure (some text)
  match expected, actual with
  | some expected, some actual =>
    ensure (expected == actual)
      "existing RPC idempotency metadata does not match the signed caller context"
  | _, none => pure ()
  | none, some _ => .error (.validation
      "existing RPC idempotency metadata does not match the signed caller context")

def insertRequired {t : Tonic} (key value : String) :
    Mutating (MetadataMap t) RpcFrameworkError Unit := do
  attempt (ensure (!(Text.trim value).isEmpty)
    ("required RPC metadata `" ++ key ++ "` must not be blank"))
  let parsedKey ← attempt (orInvalid (t.metadataKey key)
    ("invalid RPC metadata key `" ++ key ++ "`"))
  let parsedValue ← attempt (orInvalid (MetadataValue.tryFrom t value)
    ("invalid RPC metadata value for `" ++ key ++ "`"))
  modify fun metadata => metadata.insert parsedKey parsedValue

def RpcServiceCredential.applyTo {t : Tonic} (names : MetadataNames)
    (credential : RpcServiceCredential) : Mutating (MetadataMap t) RpcFrameworkError Unit := do
  let metadata ← get
  attempt (validateBoundIdempotencyMetadata names metadata credential.idempotencyKey)
  insertRequired rpcCallerContextMetadata credential.signedCallerContext.encodedContext
  insertRequired rpcCallerContextSignatureMetadata credential.signedCallerContext.signature
  match credential.idempotencyKey with
  | some idempotencyKey => insertRequired names.idempotencyKey idempotencyKey
  | none => pure ()

/-! ## What is written can be read -/

/- The part of HTTP the credential relies on: visible characters are legal in a value, and
the names of its three headers are keys as they stand. -/
structure HeaderRules (t : Tonic) (names : MetadataNames) : Prop where
  visible : ∀ b, visibleByte b = true → t.headerByte b = true
  context : t.metadataKey rpcCallerContextMetadata = some rpcCallerContextMetadata
  signature : t.metadataKey rpcCallerContextSignatureMetadata =
    some rpcCallerContextSignatureMetadata
  idempotency : t.metadataKey names.idempotencyKey = some names.idempotencyKey

theorem http_headerRules : HeaderRules http standardNames := by
  constructor
  · intro b visible
    simp only [visibleByte, http, Bool.or_eq_true, Bool.and_eq_true, decide_eq_true_eq, beq_iff_eq,
      bne_iff_ne] at visible ⊢
    rcases visible with tab | ⟨printable, small⟩
    · exact .inl tab
    · exact .inr ⟨printable, UInt8.ne_of_lt small⟩
  · decide
  · decide
  · decide

/-- The text under a key, as a reader of the first value sees it. -/
def Reads {t : Tonic} (metadata : MetadataMap t) (key : String) (text : Option String) : Prop :=
  (metadata.get key).map MetadataValue.toStr = text.map some

structure Token (s : String) : Prop where
  given : s.isEmpty = false
  plain : (bytes s).all identifierByte = true

theorem Token.ascii {s : String} (token : Token s) : ∀ b ∈ bytes s, 45 ≤ b.toNat ∧ b.toNat ≤ 122 :=
  fun b member => identifierByte_range (List.all_eq_true.mp token.plain b member)

theorem Token.visible {s : String} (token : Token s) : (bytes s).all visibleByte = true := by
  rw [List.all_eq_true]
  intro b member
  have range := token.ascii b member
  simp only [visibleByte, Bool.or_eq_true, Bool.and_eq_true, decide_eq_true_eq,
    UInt8.le_iff_toNat_le, UInt8.lt_iff_toNat_lt, UInt8.reduceToNat]
  omega

theorem solid_char : ∀ n < 128, 45 ≤ n → isWhitespace (Char.ofNat n) = false := by decide

theorem Token.trim {s : String} (token : Token s) : Text.trim s = s := by
  have small : ∀ b ∈ bytes s, b.toNat < 128 := fun b member => by
    have range := token.ascii b member
    omega
  apply trim_solid
  intro c member
  obtain ⟨b, listed, rfl⟩ := char_of_ascii small member
  exact solid_char _ (small b listed) (token.ascii b listed).1

theorem Token.toStr {t : Tonic} {s : String} (token : Token s)
    (legal : (bytes s).all t.headerByte = true) :
    MetadataValue.toStr (⟨bytes s, legal⟩ : MetadataValue t) = some s :=
  t.toStr_visible token.visible

section

variable {t : Tonic} {names : MetadataNames}

theorem get_insert_self (m : MetadataMap t) (key : String) (value : MetadataValue t) :
    (m.insert key value).get key = some value := by
  simp [MetadataMap.get, MetadataMap.insert]

theorem get_insert_of_ne (m : MetadataMap t) {key other : String} (value : MetadataValue t)
    (distinct : other ≠ key) : (m.insert key value).get other = m.get other := by
  simp [MetadataMap.get, MetadataMap.insert, Function.update_of_ne distinct]

/-- What `insert_required` lets through: not blank, and legal in a header. -/
structure Insertable (t : Tonic) (value : String) : Prop where
  solid : (Text.trim value).isEmpty = false
  legal : (bytes value).all t.headerByte = true

theorem Token.insertable (rules : HeaderRules t names) {value : String} (token : Token value) :
    Insertable t value := by
  constructor
  · rw [token.trim, token.given]
  · rw [List.all_eq_true]
    intro b member
    exact rules.visible b (List.all_eq_true.mp token.visible b member)

theorem insertRequired_insertable {key value : String} (valid : t.metadataKey key = some key)
    (fits : Insertable t value) (m : MetadataMap t) :
    (insertRequired key value).run.run m = (.ok (), m.insert key ⟨bytes value, fits.legal⟩) := by
  have parsed : MetadataValue.tryFrom t value = some ⟨bytes value, fits.legal⟩ :=
    dif_pos fits.legal
  simp only [insertRequired, fits.solid, valid, parsed, Bool.not_false, ensure_true,
    orInvalid_some, attempt_ok_bind]
  rfl

theorem insertRequired_refused {key value : String} (refused : ¬ Insertable t value)
    (m : MetadataMap t) : ∃ e, (insertRequired key value).run.run m = (.error e, m) := by
  cases blank : (Text.trim value).isEmpty with
  | true =>
    simp only [insertRequired, blank, Bool.not_true, ensure, Bool.false_eq_true, if_false,
      attempt_error_bind]
    exact ⟨_, rfl⟩
  | false =>
    have illegal : MetadataValue.tryFrom t value = none :=
      dif_neg fun legal => refused ⟨blank, legal⟩
    cases parsed : t.metadataKey key with
    | none =>
      simp only [insertRequired, blank, parsed, orInvalid, Bool.not_false, ensure_true,
        attempt_ok_bind, attempt_error_bind]
      exact ⟨_, rfl⟩
    | some parsedKey =>
      simp only [insertRequired, blank, parsed, illegal, orInvalid, Bool.not_false, ensure_true,
        attempt_ok_bind, attempt_error_bind]
      exact ⟨_, rfl⟩

theorem Token.reads {key value : String} (token : Token value)
    (legal : (bytes value).all t.headerByte = true) (m : MetadataMap t) :
    Reads (m.insert key ⟨bytes value, legal⟩) key (some value) := by
  rw [Reads, get_insert_self, Option.map_some, token.toStr]
  rfl

/-- The first key already there, if any, is readable and is the credential's own. -/
def KeyAgrees (names : MetadataNames) (m : MetadataMap t) (expected : Option String) : Prop :=
  ∀ value, m.get names.idempotencyKey = some value →
    ∃ text, value.toStr = some text ∧ expected = some text

theorem not_keyAgrees {m : MetadataMap t} {expected : Option String}
    (disagrees : ¬ KeyAgrees names m expected) :
    ∃ value, m.get names.idempotencyKey = some value ∧
      (value.toStr = none ∨ ∃ text, value.toStr = some text ∧ expected ≠ some text) := by
  unfold KeyAgrees at disagrees
  push Not at disagrees
  obtain ⟨value, present, differs⟩ := disagrees
  refine ⟨value, present, ?_⟩
  cases read : value.toStr with
  | none => exact .inl rfl
  | some text => exact .inr ⟨text, rfl, differs text read⟩

theorem validateBoundIdempotencyMetadata_ok {m : MetadataMap t} {expected : Option String} :
    validateBoundIdempotencyMetadata names m expected = .ok () ↔ KeyAgrees names m expected := by
  unfold validateBoundIdempotencyMetadata KeyAgrees
  cases found : m.get names.idempotencyKey with
  | none =>
    refine ⟨fun _ value present => (by cases present), fun _ => ?_⟩
    cases expected with
    | none => rfl
    | some key => rfl
  | some value =>
    cases read : value.toStr with
    | none =>
      simp only [read, orInvalid]
      refine ⟨fun passed => (by cases passed), fun agrees => ?_⟩
      obtain ⟨text, readable, -⟩ := agrees value rfl
      rw [read] at readable
      cases readable
    | some text =>
      simp only [read, orInvalid_some, ok_bind]
      cases expected with
      | none =>
        refine ⟨fun passed => (by cases passed), fun agrees => ?_⟩
        obtain ⟨_, -, absent⟩ := agrees value rfl
        cases absent
      | some key =>
        constructor
        · rintro passed _ ⟨⟩
          exact ⟨text, read, congrArg some (eq_of_beq (ensure_ok passed))⟩
        · intro agrees
          obtain ⟨_, readable, same⟩ := agrees value rfl
          rw [← same, read] at readable
          cases readable
          change ensure (text == text) _ = _
          rw [beq_self_eq_true, ensure_true]

/-- A disagreement with the key that was there is found before anything is written. -/
theorem applyTo_disagrees {credential : RpcServiceCredential} {m : MetadataMap t}
    (disagrees : ¬ KeyAgrees names m credential.idempotencyKey) :
    ∃ e, (credential.applyTo names).run.run m = (.error e, m) := by
  cases bound : validateBoundIdempotencyMetadata names m credential.idempotencyKey with
  | ok u => exact absurd (validateBoundIdempotencyMetadata_ok.mp bound) disagrees
  | error e =>
    refine ⟨e, ?_⟩
    simp only [RpcServiceCredential.applyTo, get_bind, bound, attempt_error_bind]

def addSigned {signed : SignedRpcCallerContext} (context : Insertable t signed.encodedContext)
    (signature : Insertable t signed.signature) (m : MetadataMap t) : MetadataMap t :=
  (m.insert rpcCallerContextMetadata ⟨bytes signed.encodedContext, context.legal⟩).insert
    rpcCallerContextSignatureMetadata ⟨bytes signed.signature, signature.legal⟩

/-- Without a disagreement both headers go in, and then the key, if there is one. -/
theorem applyTo_agrees (rules : HeaderRules t names) {credential : RpcServiceCredential}
    (context : Insertable t credential.signedCallerContext.encodedContext)
    (signature : Insertable t credential.signedCallerContext.signature) {m : MetadataMap t}
    (agrees : KeyAgrees names m credential.idempotencyKey) :
    (credential.applyTo names).run.run m =
      match credential.idempotencyKey with
      | none => (.ok (), addSigned context signature m)
      | some key => (insertRequired names.idempotencyKey key).run.run
          (addSigned context signature m) := by
  have bound := validateBoundIdempotencyMetadata_ok.mpr agrees
  have first := insertRequired_insertable rules.context context m
  have second := insertRequired_insertable rules.signature signature
    (m.insert rpcCallerContextMetadata ⟨_, context.legal⟩)
  simp only [RpcServiceCredential.applyTo, get_bind, bound, attempt_ok_bind, bind_run_ok first,
    bind_run_ok second]
  cases credential.idempotencyKey with
  | none => rfl
  | some key => rfl

/-- What a credential that went in leaves: its three texts are what the first values of their
keys read, and the other keys are as they were. -/
structure Written (names : MetadataNames) (credential : RpcServiceCredential)
    (m applied : MetadataMap t) : Prop where
  context : Reads applied rpcCallerContextMetadata
    (some credential.signedCallerContext.encodedContext)
  signature : Reads applied rpcCallerContextSignatureMetadata
    (some credential.signedCallerContext.signature)
  key : Reads applied names.idempotencyKey credential.idempotencyKey
  others : ∀ {other : String}, other ≠ rpcCallerContextMetadata →
    other ≠ rpcCallerContextSignatureMetadata → other ≠ names.idempotencyKey →
    applied.get other = m.get other

/-- The key that was there decides alone whether the credential goes in. When it does not,
nothing has moved. -/
def KeyDecides (names : MetadataNames) (credential : RpcServiceCredential)
    (m : MetadataMap t) : Prop :=
  (KeyAgrees names m credential.idempotencyKey ∧
    ∃ applied, (credential.applyTo names).run.run m = (.ok (), applied) ∧
      Written names credential m applied) ∨
  (¬ KeyAgrees names m credential.idempotencyKey ∧
    ∃ e, (credential.applyTo names).run.run m = (.error e, m))

theorem applyTo_decides (rules : HeaderRules t names) {credential : RpcServiceCredential}
    (distinct : names.idempotencyKey ≠ rpcCallerContextMetadata ∧
      names.idempotencyKey ≠ rpcCallerContextSignatureMetadata)
    (context : Token credential.signedCallerContext.encodedContext)
    (signature : Token credential.signedCallerContext.signature)
    (key : ∀ text, credential.idempotencyKey = some text → Token text) (m : MetadataMap t) :
    KeyDecides names credential m := by
  by_cases agrees : KeyAgrees names m credential.idempotencyKey
  case neg => exact .inr ⟨agrees, applyTo_disagrees agrees⟩
  refine .inl ⟨agrees, ?_⟩
  have runs := applyTo_agrees rules (context.insertable rules) (signature.insertable rules) agrees
  have contextRead : Reads (addSigned (context.insertable rules)
      (signature.insertable rules) m) rpcCallerContextMetadata
        (some credential.signedCallerContext.encodedContext) := by
    rw [Reads, addSigned, get_insert_of_ne _ _ (by decide)]
    exact context.reads _ m
  have signatureRead : Reads (addSigned (context.insertable rules)
      (signature.insertable rules) m) rpcCallerContextSignatureMetadata
        (some credential.signedCallerContext.signature) := signature.reads _ _
  have unsigned : ∀ {other}, other ≠ rpcCallerContextMetadata →
      other ≠ rpcCallerContextSignatureMetadata → (addSigned (context.insertable rules)
        (signature.insertable rules) m).get other = m.get other := by
    intro other notContext notSignature
    rw [addSigned, get_insert_of_ne _ _ notSignature, get_insert_of_ne _ _ notContext]
  cases held : credential.idempotencyKey with
  | none =>
    rw [held] at runs
    refine ⟨_, runs, contextRead, signatureRead, ?_, fun notContext notSignature _ =>
      unsigned notContext notSignature⟩
    -- No key was there, and neither of the two headers is the key's.
    rw [Reads, unsigned distinct.1 distinct.2, held]
    cases found : m.get names.idempotencyKey with
    | none => rfl
    | some value =>
      obtain ⟨_, -, same⟩ := agrees value found
      rw [held] at same
      cases same
  | some text =>
    have token := key text held
    rw [held] at runs
    simp only [insertRequired_insertable rules.idempotency (token.insertable rules)] at runs
    refine ⟨_, runs, ?_, ?_, ?_, fun notContext notSignature notKey => ?_⟩
    · rw [Reads, get_insert_of_ne _ _ distinct.1.symm]
      exact contextRead
    · rw [Reads, get_insert_of_ne _ _ distinct.2.symm]
      exact signatureRead
    · rw [held]
      exact token.reads _ _
    · rw [get_insert_of_ne _ _ notKey, unsigned notContext notSignature]

end

/-! ## What is issued -/

theorem digit_identifier : ∀ n < 64, identifierByte (Base64url.digit n).val.toUInt8 = true := by
  decide

theorem encode_token {bs : List UInt8} (given : bs ≠ []) : Token (Base64url.encode bs) := by
  constructor
  · rw [String.isEmpty_eq_false_iff]
    intro empty
    have size := Base64url.bytes_encode_length bs
    have positive := List.length_pos_iff.mpr given
    rw [empty, show (bytes "").length = 0 from rfl] at size
    omega
  · rw [Base64url.bytes_encode, List.all_map, List.all_eq_true]
    intro ch member
    obtain ⟨n, small, rfl⟩ := Base64url.encodeBytes_digits bs ch member
    exact digit_identifier n small

section

variable {codec : Codec} {signer : RpcCallerContextSigner} {c : RpcCallerContext}
  {ttl : Duration} {now : SystemTime} {nonce : String} {signed : SignedRpcCallerContext}
  {issuedAt expiresAt : I64}

theorem issued_tokens (standard : Standard codec)
    (given : ∀ serialized,
      codec.toVec (signer.payload c issuedAt expiresAt nonce) = .ok serialized → serialized ≠ [])
    (issued : Issued codec signer c ttl now nonce signed issuedAt expiresAt) :
    Token signed.encodedContext ∧ Token signed.signature := by
  obtain ⟨serialized, written, encoded⟩ := issued.written
  obtain ⟨tag, size, text, -⟩ := standard.hmac (bytes (signingInput signed.encodedContext))
    signer.signingKey.asBytes
  constructor
  · rw [encoded, standard.base64url]
    exact encode_token (given serialized written)
  · rw [issued.tagged, text, standard.base64url]
    apply encode_token
    rintro rfl
    cases size

theorem provider_new_ok {provider : SignedRpcServiceCredentialProvider}
    (provided : SignedRpcServiceCredentialProvider.new signer ttl = .ok provider) :
    provider = ⟨signer, ttl⟩ := by
  unfold SignedRpcServiceCredentialProvider.new at provided
  split at provided
  · cases provided
  · cases provided
    rfl

theorem issue_ok {provider : SignedRpcServiceCredentialProvider} {credential : RpcServiceCredential}
    (succeeded : provider.issue codec c now nonce = .ok credential) :
    provider.signer.signAt codec c provider.ttl now nonce = .ok credential.signedCallerContext ∧
      credential.idempotencyKey = c.idempotencyKey := by
  obtain ⟨signed, signs, succeeded⟩ := bind_ok succeeded
  cases succeeded
  exact ⟨signs, rfl⟩

end

end SdkworkRpc.Client
