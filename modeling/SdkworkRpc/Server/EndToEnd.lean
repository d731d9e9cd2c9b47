import SdkworkRpc.Core.IssuerKeys
import SdkworkRpc.Server.Assembly
import SdkworkRpc.Server.Mesh
import SdkworkRpc.Server.Mtls

/-! An internal call from the client's settings to the method of the server: the channel, the
handshake, the metadata in either order of assembly, and the interceptor. -/
namespace SdkworkRpc.Server

open Machine Text SdkworkRpc.Core Client

/-- A client that got as far as connecting, and the listener it connects to. -/
structure Link [SdkworkUtils] where
  clientBuild : Build
  tonic : Transport
  endpoint : String
  channel : GrpcChannelConfig
  dial : Dial
  reached : connectGrpcChannelWithConfig clientBuild tonic endpoint channel = .ok dial
  serverBuild : Build
  accepts : ServerTlsConfig → Except String Unit
  listener : RpcServerTlsConfig
  tls : ServerTlsConfig
  applied : applyServerTls serverBuild accepts listener = .ok tls

def Link.peerCerts [SdkworkUtils] (link : Link) (net : Connections) :
    Option (Option (List (List UInt8))) :=
  net.accept (some link.tls) (net.client link.dial)

def Link.Trusts [SdkworkUtils] (link : Link) (net : Connections) : Prop :=
  link.dial.negotiatesTls = true → net.acceptsServer (net.client link.dial) link.tls

/-- The settings that make the chain show: a secure scheme and a whole identity at the client,
and a client CA at the server whose file vouches for the client's. -/
structure Link.Shows [SdkworkUtils] (link : Link) (net : Connections)
    (chain : List (List UInt8)) : Prop where
  secure : secureScheme link.endpoint = true
  own : ∃ config certPath keyPath pem, link.channel.tls = some config ∧
    config.clientCertPath = some certPath ∧ config.clientKeyPath = some keyPath ∧
    link.clientBuild.read certPath = .ok pem ∧ net.certificates pem = chain
  given : chain ≠ []
  root : ∃ path ca, link.listener.clientCaCertificatePath = some path ∧
    link.serverBuild.read path = .ok ca ∧ net.chainVerifies ca chain = true

section

variable {build : Build}

theorem buildClientTlsConfig_given {config : RpcTlsConfig} {tls : ClientTlsConfig}
    {certPath keyPath : String} {pem : List UInt8}
    (built : buildClientTlsConfig build config = .ok tls)
    (cert : config.clientCertPath = some certPath) (key : config.clientKeyPath = some keyPath)
    (read : build.read certPath = .ok pem) : ∃ keyPem, tls.identity = some (pem, keyPem) := by
  rcases buildClientTlsConfig_ok built with
    ⟨_, _, found, keyPem, cert', -, read', -, held⟩ | ⟨absent | absent, -⟩
  · cases Option.some.inj (cert.symm.trans cert')
    cases Except.ok.inj (read.symm.trans read')
    exact ⟨keyPem, held⟩
  · rw [cert] at absent
    cases absent
  · rw [key] at absent
    cases absent

theorem ConnectionRules.client_given [SdkworkUtils] {net : Connections}
    (rules : ConnectionRules net) {tonic : Transport} {endpoint : String}
    {channel : GrpcChannelConfig} {dial : Dial} {config : RpcTlsConfig}
    {certPath keyPath : String} {pem : List UInt8}
    (reached : connectGrpcChannelWithConfig build tonic endpoint channel = .ok dial)
    (secure : secureScheme endpoint = true) (configured : channel.tls = some config)
    (cert : config.clientCertPath = some certPath) (key : config.clientKeyPath = some keyPath)
    (read : build.read certPath = .ok pem) :
    dial.negotiatesTls = true ∧ net.presents (net.client dial) = net.certificates pem := by
  obtain ⟨scheme, carried⟩ := connect_reached reached
  rw [configured, Option.isSome_some] at carried
  obtain ⟨clientTls, held⟩ := Option.isSome_iff_exists.mp carried
  obtain ⟨config', configured', built⟩ := connect_tls reached held
  cases Option.some.inj (configured.symm.trans configured')
  obtain ⟨keyPem, identity⟩ := buildClientTlsConfig_given built cert key read
  have negotiates : dial.negotiatesTls = true := by
    rw [Dial.negotiatesTls, scheme, secure, held]
    rfl
  refine ⟨negotiates, ?_⟩
  rw [rules.client, if_pos negotiates, held, Option.bind_some, identity]
  rfl

theorem applied_given {accepts : ServerTlsConfig → Except String Unit}
    {config : RpcServerTlsConfig} {tls : ServerTlsConfig} {path : String} {ca : List UInt8}
    (applied : applyServerTls build accepts config = .ok tls)
    (configured : config.clientCaCertificatePath = some path) (read : build.read path = .ok ca) :
    tls.clientCaRoot = some ca := by
  obtain ⟨-, -, ⟨absent, -⟩ | ⟨path', ca', configured', read', root, -⟩⟩ :=
    applyServerTls_ok applied
  · rw [configured] at absent
    cases absent
  · cases Option.some.inj (configured.symm.trans configured')
    cases Except.ok.inj (read.symm.trans read')
    exact root

end

theorem Link.peerCerts_iff [SdkworkUtils] (link : Link) {net : Connections}
    (rules : ConnectionRules net) (trusts : link.Trusts net) (chain : List (List UInt8)) :
    link.peerCerts net = some (some chain) ↔ link.Shows net chain := by
  unfold Link.peerCerts
  constructor
  · intro connected
    obtain ⟨_, ca, ⟨⟩, held, rfl, given, verified⟩ := rules.shown connected
    obtain ⟨secure, own⟩ := rules.client_chain link.reached given
    obtain ⟨path, configured, read, -⟩ := applied_root link.applied held
    exact ⟨secure, own, given, path, ca, configured, read, verified⟩
  · rintro ⟨secure, ⟨config, certPath, keyPath, pem, configured, cert, key, read, rfl⟩, given,
      path, ca, rooted, readCa, verified⟩
    obtain ⟨negotiates, presents⟩ :=
      rules.client_given link.reached secure configured cert key read
    rw [← presents] at given verified ⊢
    exact rules.verified (trusts negotiates) (applied_given link.applied rooted readCa) given
      verified

/-! ## The metadata -/

/-- A signed context and the credential that a provider issues for it. -/
structure Call (codec : Codec) extends Signing codec where
  provider : SignedRpcServiceCredentialProvider
  provided : SignedRpcServiceCredentialProvider.new signer ttl = .ok provider
  credential : RpcServiceCredential
  issued : provider.issue codec context now nonce = .ok credential

inductive AssemblyOrder where
  | metadataFirst | credentialFirst
  deriving DecidableEq, Repr

def assemble [SdkworkUtils] {t : Tonic} (names : MetadataNames) (m : RpcCallMetadata)
    (credential : RpcServiceCredential) (initial : MetadataMap t) :
    AssemblyOrder → RpcFrameworkResult (MetadataMap t)
  | .metadataFirst => metadataFirst names m credential initial
  | .credentialFirst => credentialFirst names m credential initial

def Unasserting (t : Tonic) (names : MetadataNames) : Prop :=
  ∀ name ∈ [names.authorization, names.accessToken, names.requestId, names.traceparent,
    names.idempotencyKey, names.requestHash],
    t.metadataKey name ≠ some rpcServiceIdentityAssertionMetadata

section

variable {t : Tonic} {names : MetadataNames} {codec : Codec}

theorem Call.carried (call : Call codec) : call.credential.signedCallerContext = call.signed ∧
    call.credential.idempotencyKey = call.context.idempotencyKey := by
  obtain ⟨signs, key⟩ := issue_ok call.issued
  rw [provider_new_ok call.provided] at signs
  exact ⟨Except.ok.inj (signs.symm.trans call.succeeded), key⟩

theorem Call.decides (call : Call codec) (standard : Standard codec) (rules : HeaderRules t names)
    (sameName : names.idempotencyKey = "idempotency-key") (m : MetadataMap t) :
    KeyDecides names call.credential m := by
  obtain ⟨identifier, signer_is⟩ := signer_new_ok call.made
  have named : Identifier call.signer.issuerServiceId := by rwa [signer_is]
  obtain ⟨issuedAt, expiresAt, issued⟩ := signAt_issued call.succeeded
  obtain ⟨signed, carried⟩ := call.carried
  rw [← signed] at issued
  exact issued_decides sameName rules standard (build_ok call.built) named call.uuid issued
    carried m

theorem Call.assembled [SdkworkUtils] (call : Call codec) (standard : Standard codec)
    (rules : HeaderRules t names) (separate : SeparateNames t names)
    (sameName : names.idempotencyKey = "idempotency-key") (m : RpcCallMetadata)
    {initial : MetadataMap t} (fresh : initial.get names.idempotencyKey = none)
    (order : AssemblyOrder) :
    (∃ metadata, assemble names m call.credential initial order = .ok metadata ∧
      Assembled names m call.context call.signed initial metadata) ∨
    (¬ KeysAgree t m call.context ∧
      ∃ e, assemble names m call.credential initial order = .error e) := by
  have built := build_ok call.built
  have decides : ∀ map : MetadataMap t, KeyDecides names call.credential map :=
    call.decides standard rules sameName
  obtain ⟨signed, carried⟩ := call.carried
  rw [← signed]
  cases order with
  | metadataFirst =>
    rcases metadataFirst_assembled rules separate built carried decides m fresh with
      ⟨-, assembled⟩ | refused
    · exact .inl assembled
    · exact .inr refused
  | credentialFirst =>
    exact .inl (credentialFirst_assembled sameName rules separate built carried decides m fresh)

end

/-! ## The whole way -/

/-- What the method of the server is given of an assembled call that comes over the link. The
listener has TLS, so the server is built with it. -/
def Link.given [SdkworkUtils] {t : Tonic} (link : Link) (net : Connections) (x509 : X509)
    (codec : Codec) (security : RpcInternalServiceSecurity) (later : SystemTime)
    (assembled : RpcFrameworkResult (MetadataMap t)) :
    Option (VerifiedRpcServiceIdentity × VerifiedRpcCallerContext) := do
  let metadata ← assembled.toOption
  let peerCerts ← link.peerCerts net
  (Mesh.given x509 codec security peerCerts metadata later).toOption

section

variable {t : Tonic} {names : MetadataNames} {codec : Codec} {x509 : X509}
  {security : RpcInternalServiceSecurity} {metadata : MetadataMap t}

theorem toOption_some {ε α : Type} {x : Except ε α} {a : α} :
    x.toOption = some a ↔ x = .ok a := by
  cases x with
  | error e => simp [Except.toOption]
  | ok b => simp [Except.toOption]

theorem given_iff {peerCerts : Option (List (List UInt8))} {later : SystemTime}
    (bare : metadata.get rpcServiceIdentityAssertionMetadata = none)
    {identity : VerifiedRpcServiceIdentity} {v : VerifiedRpcCallerContext} :
    Mesh.given x509 codec security peerCerts metadata later = .ok (identity, v) ↔
      certificateIdentity x509 security.serviceIdentityPolicy peerCerts = some identity ∧
        security.verifyOptionalCallerContext codec metadata identity later = .ok (some v) := by
  constructor
  · exact Mesh.given_ok
  · rintro ⟨derived, verified⟩
    apply Mesh.given_of_checks
    have asserted : validateOptionalServiceAssertion metadata identity = .ok () := by
      simp only [validateOptionalServiceAssertion, optionalMetadata, bare, ok_bind]
      rfl
    match peerCerts with
    | none => cases derived
    | some [] => cases derived
    | some (leaf :: rest) => exact checks_pass (toOption_some.mp derived) asserted verified

theorem Call.verified_iff (call : Call codec) (standard : Standard codec) {audience : String}
    {keys : List (String × RpcCallerContextSigningKey)} {verifier : RpcCallerContextVerifier}
    (opened : RpcCallerContextVerifier.new audience keys = .ok verifier)
    (configured : security.callerContextVerifier = some verifier) (apart : call.Apart keys)
    {later : SystemTime} {n : I64} (read : unixSeconds later = .ok n)
    {identity : VerifiedRpcServiceIdentity}
    (context : Reads metadata rpcCallerContextMetadata (some call.signed.encodedContext))
    (signature : Reads metadata rpcCallerContextSignatureMetadata (some call.signed.signature)) :
    (∃ v, security.verifyOptionalCallerContext codec metadata identity later = .ok (some v) ∧
      v.callerContext = call.context) ↔
      Reads metadata "idempotency-key" call.context.idempotencyKey ∧
        call.Fits keys verifier identity call.context.idempotencyKey n := by
  constructor
  · rintro ⟨v, admitted, carried⟩
    obtain ⟨key, reads, verified⟩ :=
      verifyOptionalCallerContext_signed configured context signature admitted
    have fits := (call.verify_iff standard opened apart read).mp ⟨v, verified, carried⟩
    cases fits.idempotency
    exact ⟨reads, fits⟩
  · rintro ⟨reads, fits⟩
    obtain ⟨v, verified, carried⟩ := (call.verify_iff standard opened apart read).mpr fits
    exact ⟨v, verifyOptionalCallerContext_reads configured context signature reads verified,
      carried⟩

theorem Link.given_iff [SdkworkUtils] (link : Link) {net : Connections}
    (rules : ConnectionRules net) (trusts : link.Trusts net) {later : SystemTime}
    (bare : metadata.get rpcServiceIdentityAssertionMetadata = none)
    {identity : VerifiedRpcServiceIdentity} {v : VerifiedRpcCallerContext} :
    link.given net x509 codec security later (.ok metadata) = some (identity, v) ↔
      ∃ chain, link.Shows net chain ∧
        certificateIdentity x509 security.serviceIdentityPolicy (some chain) = some identity ∧
        security.verifyOptionalCallerContext codec metadata identity later = .ok (some v) := by
  simp only [Link.given, Option.bind_eq_bind, Option.bind_eq_some_iff, toOption_some]
  constructor
  · rintro ⟨_, ⟨⟩, peerCerts, shown, passed⟩
    obtain ⟨derived, verified⟩ := (Server.given_iff bare).mp passed
    obtain ⟨chain, rfl⟩ := certificateIdentity_chain derived
    exact ⟨chain, (link.peerCerts_iff rules trusts chain).mp shown, derived, verified⟩
  · rintro ⟨chain, shows, derived, verified⟩
    exact ⟨metadata, rfl, some chain, (link.peerCerts_iff rules trusts chain).mpr shows,
      (Server.given_iff bare).mpr ⟨derived, verified⟩⟩

end

theorem signing_call {codec : Codec} (s : Signing codec)
    (most : s.ttl.nanos ≤ (Duration.fromSecs 300).nanos) :
    ∃ call : Call codec, call.toSigning = s := by
  have least := s.least
  have solid : s.ttl.isZero = false := by
    rw [Bool.eq_false_iff, Ne, Duration.isZero_iff]
    have second : (Duration.fromSecs 1).nanos = 1000000000 := rfl
    omega
  have provided : SignedRpcServiceCredentialProvider.new s.signer s.ttl =
      .ok ⟨s.signer, s.ttl⟩ := by
    rw [SignedRpcServiceCredentialProvider.new, solid, Bool.false_or, if_neg]
    simpa using most
  refine ⟨⟨s, _, provided, ⟨s.signed, s.context.idempotencyKey⟩, ?_⟩, rfl⟩
  simp only [SignedRpcServiceCredentialProvider.issue, s.succeeded, ok_bind]
  rfl

theorem standardNames_unasserting : Unasserting http standardNames := by
  unfold Unasserting
  decide

attribute [local instance] languageUtils

def meshLink : Link where
  clientBuild := ordersMachine
  tonic := openTransport
  endpoint := "grpcs://billing:443"
  channel := meshChannel
  dial := meshDial
  reached := mesh_reached
  serverBuild := billingMachine
  accepts _ := .ok ()
  listener := meshListener
  tls := meshServer
  applied := mesh_listens

theorem meshLink_trusts : meshLink.Trusts meshNet := by
  intro negotiates
  have client : meshNet.client meshLink.dial = .tls billingPem [ordersLeaf] := mesh_client
  rw [client]
  exact meshServer_accepted _

theorem meshLink_shows : meshLink.Shows meshNet [ordersLeaf] := by
  have ownChain := meshCertificates_orders
  have vouched := meshVerifies_orders
  have readCert : meshLink.clientBuild.read "tls.crt" = .ok ordersPem := rfl
  have readCa : meshLink.serverBuild.read "clients.pem" = .ok ordersPem := rfl
  have certificates : meshNet.certificates = meshCertificates := rfl
  have verifies : meshNet.chainVerifies = meshVerifies := rfl
  rw [← certificates] at ownChain
  rw [← verifies] at vouched
  constructor
  · decide
  · exact ⟨_, "tls.crt", "tls.key", ordersPem, rfl, rfl, rfl, readCert, ownChain⟩
  · exact List.cons_ne_nil _ _
  · exact ⟨"clients.pem", ordersPem, rfl, readCa, vouched⟩

end SdkworkRpc.Server
