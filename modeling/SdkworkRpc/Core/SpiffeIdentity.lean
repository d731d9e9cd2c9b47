import SdkworkRpc.Core.IdentityPolicy
import SdkworkRpc.Library.Base64url

/-! Which certificates name a service. A SPIFFE identity is a trust domain and a service
identifier around a fixed path; neither can contain a slash, so the text of the URI gives
back both. -/
namespace SdkworkRpc.Core

open Machine Text

structure TrustDomain (value : String) : Prop where
  given : value.isEmpty = false
  short : (bytes value).length ≤ 253
  plain : (bytes value).all trustDomainByte = true

theorem validateTrustDomain_ok {trustDomain : String}
    (passed : validateTrustDomain trustDomain = .ok ()) : TrustDomain trustDomain := by
  unfold validateTrustDomain at passed
  split at passed
  · cases passed
  · rename_i sized
    split at passed
    · cases passed
    · rename_i plain
      simp only [Bool.or_eq_true, decide_eq_true_eq, not_or, Bool.not_eq_true, Nat.not_lt] at sized
      exact ⟨sized.1, sized.2, by simpa using plain⟩

theorem trustDomainByte_identifier {b : UInt8} (plain : trustDomainByte b = true) :
    identifierByte b = true := by
  simp only [trustDomainByte, identifierByte, Bool.or_eq_true] at plain ⊢
  tauto

theorem reserved_char : ∀ n < 128, identifierByte (UInt8.ofNat n) = true →
    Char.ofNat n ≠ '/' ∧ Char.ofNat n ≠ '?' ∧ Char.ofNat n ≠ '#' := by
  decide

theorem segment_chars {s : String} (plain : (bytes s).all identifierByte = true) :
    ∀ c ∈ s.toList, c ≠ '/' ∧ c ≠ '?' ∧ c ≠ '#' := by
  have listed := List.all_eq_true.mp plain
  have small : ∀ b ∈ bytes s, b.toNat < 128 := fun b member => by
    have range := identifierByte_range (listed b member)
    omega
  intro c member
  obtain ⟨b, among, rfl⟩ := char_of_ascii small member
  apply reserved_char _ (small b among)
  rw [UInt8.ofNat_toNat]
  exact listed b among

theorem TrustDomain.slashFree {s : String} (domain : TrustDomain s) : ∀ c ∈ s.toList, c ≠ '/' := by
  have plain : (bytes s).all identifierByte = true := by
    rw [List.all_eq_true]
    intro b member
    exact trustDomainByte_identifier (List.all_eq_true.mp domain.plain b member)
  exact fun c member => (segment_chars plain c member).1

def spiffeServiceUri (trustDomain serviceId : String) : String :=
  "spiffe://" ++ trustDomain ++ spiffeServicePathPrefix ++ serviceId

/-- The parser accepts what the grammar writes, and nothing else. -/
theorem parseSpiffeServiceUri_ok {uri trustDomain serviceId : String} :
    parseSpiffeServiceUri uri trustDomain = .ok serviceId ↔
      uri = spiffeServiceUri trustDomain serviceId ∧ Identifier serviceId := by
  constructor
  · intro parsed
    obtain ⟨stripped, found, parsed⟩ := bind_ok parsed
    obtain ⟨_, _, parsed⟩ := bind_ok parsed
    obtain ⟨_, checked, parsed⟩ := bind_ok parsed
    cases parsed
    exact ⟨stripPrefix_iff.mp (orInvalid_ok found), validateIdentifier_ok.mp checked⟩
  · rintro ⟨rfl, identifier⟩
    have whole : (!(serviceId.toList.contains '/' || serviceId.toList.contains '?' ||
        serviceId.toList.contains '#')) = true := by
      have chars := segment_chars identifier.plain
      simp only [Bool.not_eq_true', Bool.or_eq_false_iff, List.contains_eq_mem,
        decide_eq_false_iff_not]
      exact ⟨⟨fun h => (chars _ h).1 rfl, fun h => (chars _ h).2.1 rfl⟩,
        fun h => (chars _ h).2.2 rfl⟩
    unfold parseSpiffeServiceUri
    simp only [spiffeServiceUri, stripPrefix_iff.mpr rfl, orInvalid_some, whole, ensure_true,
      validateIdentifier_ok.mpr identifier, ok_bind]
    rfl

theorem TrustDomain.authority {s : String} (domain : TrustDomain s) (serviceId : String) :
    (s ++ (spiffeServicePathPrefix ++ serviceId)).toList.takeWhile (· != '/') = s.toList := by
  have slash : spiffeServicePathPrefix.toList = '/' :: "sdkwork/service/".toList := by decide
  rw [String.toList_append, String.toList_append, slash,
    List.takeWhile_append_of_pos fun c member => bne_iff_ne.mpr (domain.slashFree c member),
    List.cons_append, List.takeWhile_cons_of_neg (by decide), List.append_nil]

/-- Of two trust domains at most one lets a URI through, and as one service. -/
theorem spiffeServiceUri_injective {first second serviceId other : String}
    (domain : TrustDomain first) (domain' : TrustDomain second)
    (same : spiffeServiceUri first serviceId = spiffeServiceUri second other) :
    first = second ∧ serviceId = other := by
  simp only [spiffeServiceUri, String.append_assoc] at same
  have paths := append_left_injective same
  have authority : first = second := by
    apply String.toList_inj.mp
    rw [← domain.authority serviceId, paths, domain'.authority other]
  subst authority
  exact ⟨rfl, append_left_injective (append_left_injective paths)⟩

/-! ## The policy and the names of a certificate -/

theorem mem_insertServiceId {serviceId x : String} {set : List String} :
    x ∈ insertServiceId serviceId set ↔ x = serviceId ∨ x ∈ set := by
  induction set with
  | nil => simp [insertServiceId]
  | cons y rest ih =>
    unfold insertServiceId
    split
    · rename_i same
      subst same
      simp
    · split
      · simp
      · simp only [List.mem_cons, ih]
        tauto

theorem mem_collectServiceIds {x : String} (serviceIds : List String) :
    x ∈ collectServiceIds serviceIds ↔ x ∈ serviceIds := by
  have grows : ∀ set,
      x ∈ serviceIds.foldl (fun set serviceId => insertServiceId serviceId set) set ↔
        x ∈ set ∨ x ∈ serviceIds := by
    induction serviceIds with
    | nil => simp
    | cons serviceId rest ih =>
      intro set
      rw [List.foldl_cons, ih, mem_insertServiceId, List.mem_cons]
      tauto
  exact (grows []).trans (by simp)

theorem validateServiceIds_ok {serviceIds : List String}
    (passed : validateServiceIds serviceIds = .ok ()) : ∀ x ∈ serviceIds, Identifier x := by
  induction serviceIds with
  | nil => exact nofun
  | cons serviceId rest ih =>
    obtain ⟨_, first, others⟩ := bind_ok passed
    intro x member
    rcases List.mem_cons.mp member with rfl | later
    · exact validateIdentifier_ok.mp first
    · exact ih others x later

theorem policy_new_ok {trustDomain : String} {serviceIds : List String}
    {policy : RpcServiceIdentityPolicy}
    (made : RpcServiceIdentityPolicy.new trustDomain serviceIds = .ok policy) :
    policy.trustDomain = trustDomain ∧
      (∀ x, policy.allows x = true ↔ x ∈ serviceIds) ∧ ∀ x ∈ serviceIds, Identifier x := by
  obtain ⟨_, _, made⟩ := bind_ok made
  simp only at made
  split at made
  · cases made
  · obtain ⟨_, checked, made⟩ := bind_ok made
    cases made
    refine ⟨rfl, fun x => ?_, fun x member => ?_⟩
    · rw [RpcServiceIdentityPolicy.allows, decide_eq_true_iff, mem_collectServiceIds]
    · exact validateServiceIds_ok checked x ((mem_collectServiceIds serviceIds).mpr member)

def GeneralName.isSpiffe : GeneralName → Bool
  | .uri value => startsWith value "spiffe://"
  | .other => false

def GeneralName.text : GeneralName → String
  | .uri value => value
  | .other => ""

theorem spiffeUris_filter (names : List GeneralName) :
    spiffeUris names = (names.filter GeneralName.isSpiffe).map GeneralName.text := by
  induction names with
  | nil => rfl
  | cons name rest ih =>
    unfold spiffeUris at ih ⊢
    cases name with
    | other => simp only [List.filterMap_cons_none, ih]; rfl
    | uri value =>
      cases h : startsWith value "spiffe://" with
      | false =>
        rw [List.filterMap_cons_none (by simp [h]),
          List.filter_cons_of_neg (by simp [GeneralName.isSpiffe, h]), ih]
      | true =>
        have kept : (GeneralName.uri value).isSpiffe = true := h
        rw [List.filterMap_cons_some (b := value) (by simp [h]), List.filter_cons_of_pos kept, ih]
        rfl

theorem spiffeUris_singleton {names : List GeneralName} {uri : String} :
    spiffeUris names = [uri] ↔ names.filter GeneralName.isSpiffe = [.uri uri] := by
  rw [spiffeUris_filter]
  constructor
  · intro single
    obtain ⟨name, only, rfl⟩ := List.map_eq_singleton_iff.mp single
    have counted : name.isSpiffe = true :=
      (List.mem_filter.mp (only ▸ List.mem_singleton_self name)).2
    cases name with
    | uri value => exact only
    | other => cases counted
  · intro single
    rw [single]
    rfl

/-- What is left of the verification once the names are known. -/
def RpcServiceIdentityPolicy.identityOf (policy : RpcServiceIdentityPolicy) (digest : String) :
    List String → RpcFrameworkResult VerifiedRpcServiceIdentity
  | [spiffeUri] => do
    let serviceId ← parseSpiffeServiceUri spiffeUri policy.trustDomain
    ensure (policy.allows serviceId)
      ("mTLS peer service identity `" ++ serviceId ++ "` is not allowed")
    pure ⟨serviceId, policy.trustDomain, spiffeUri, digest⟩
  | uris => .error (.validation
      ("mTLS peer certificate must include exactly one SPIFFE URI SAN, found " ++
        toString uris.length))

section Names

variable {x509 : X509} {policy : RpcServiceIdentityPolicy} {certificateDer : List UInt8}
  {certificate : x509.Certificate} {names : List GeneralName}

theorem verify_identityOf (parsed : x509.fromDer certificateDer = .ok certificate)
    (named : x509.subjectAlternativeName certificate = .ok (some names)) :
    policy.verifyTlsPeerCertificateDer x509 certificateDer =
      policy.identityOf (x509.sha256Hash certificateDer) (spiffeUris names) := by
  unfold RpcServiceIdentityPolicy.verifyTlsPeerCertificateDer
  rw [parsed, ok_mapError, ok_bind, named, ok_mapError, ok_bind, orInvalid_some, ok_bind]
  rfl

def VerifiedRpcServiceIdentity.claimed (identity : VerifiedRpcServiceIdentity) :
    String × String × String :=
  (identity.serviceId, identity.trustDomain, identity.spiffeUri)

theorem identityOf_perm (digest digest' : String) {uris uris' : List String}
    (same : uris.Perm uris') :
    (policy.identityOf digest uris).map VerifiedRpcServiceIdentity.claimed =
      (policy.identityOf digest' uris').map VerifiedRpcServiceIdentity.claimed := by
  match uris with
  | [] =>
    cases List.nil_perm.mp same
    rfl
  | [uri] =>
    cases List.singleton_perm.mp same
    rw [RpcServiceIdentityPolicy.identityOf, RpcServiceIdentityPolicy.identityOf]
    cases parsed : parseSpiffeServiceUri uri policy.trustDomain with
    | error e => rfl
    | ok serviceId =>
      rw [ok_bind, ok_bind]
      cases policy.allows serviceId <;> rfl
  | first :: second :: rest =>
    match uris' with
    | [] => cases same.length_eq
    | [_] => cases same.length_eq
    | _ :: _ :: _ =>
      simp only [RpcServiceIdentityPolicy.identityOf, same.length_eq]

theorem identityOf_ok {trustDomain digest serviceId : String} {serviceIds uris : List String}
    (made : RpcServiceIdentityPolicy.new trustDomain serviceIds = .ok policy) :
    (∃ identity, policy.identityOf digest uris = .ok identity ∧ identity.serviceId = serviceId) ↔
      serviceId ∈ serviceIds ∧ uris = [spiffeServiceUri trustDomain serviceId] := by
  obtain ⟨rfl, allows, identifiers⟩ := policy_new_ok made
  constructor
  · rintro ⟨identity, derived, rfl⟩
    unfold RpcServiceIdentityPolicy.identityOf at derived
    split at derived
    · obtain ⟨serviceId, parsed, derived⟩ := bind_ok derived
      obtain ⟨_, allowed, derived⟩ := bind_ok derived
      cases derived
      refine ⟨(allows serviceId).mp (ensure_ok allowed), ?_⟩
      rw [(parseSpiffeServiceUri_ok.mp parsed).1]
    · cases derived
  · rintro ⟨listed, rfl⟩
    have parsed : parseSpiffeServiceUri (spiffeServiceUri policy.trustDomain serviceId)
        policy.trustDomain = .ok serviceId :=
      parseSpiffeServiceUri_ok.mpr ⟨rfl, identifiers serviceId listed⟩
    refine ⟨⟨serviceId, policy.trustDomain, spiffeServiceUri policy.trustDomain serviceId, digest⟩,
      ?_, rfl⟩
    rw [RpcServiceIdentityPolicy.identityOf, parsed, ok_bind, (allows serviceId).mpr listed,
      ensure_true, ok_bind]
    rfl

end Names

/-- A certificate is taken for a service exactly when a single name of it has the SPIFFE
scheme and reads as an allowed service in the policy's trust domain. Neither the order of
the names nor any other name matters, and no URI reads in two ways. -/
theorem spiffe_identity_exact (x509 : X509) (trustDomain : String) (serviceIds : List String)
    (policy : RpcServiceIdentityPolicy)
    (made : RpcServiceIdentityPolicy.new trustDomain serviceIds = .ok policy) :
    (∀ der certificate names, x509.fromDer der = .ok certificate →
      x509.subjectAlternativeName certificate = .ok (some names) →
      ∀ serviceId,
        (∃ identity, policy.verifyTlsPeerCertificateDer x509 der = .ok identity ∧
          identity.serviceId = serviceId) ↔
        serviceId ∈ serviceIds ∧ names.filter GeneralName.isSpiffe =
          [.uri ("spiffe://" ++ trustDomain ++ "/sdkwork/service/" ++ serviceId)]) ∧
    (∀ der der' certificate certificate' names names',
      x509.fromDer der = .ok certificate → x509.fromDer der' = .ok certificate' →
      x509.subjectAlternativeName certificate = .ok (some names) →
      x509.subjectAlternativeName certificate' = .ok (some names') →
      (names.filter GeneralName.isSpiffe).Perm (names'.filter GeneralName.isSpiffe) →
      (policy.verifyTlsPeerCertificateDer x509 der).map VerifiedRpcServiceIdentity.claimed =
        (policy.verifyTlsPeerCertificateDer x509 der').map VerifiedRpcServiceIdentity.claimed) ∧
    ∀ uri domain domain' serviceId serviceId',
      validateTrustDomain domain = .ok () → validateTrustDomain domain' = .ok () →
      parseSpiffeServiceUri uri domain = .ok serviceId →
      parseSpiffeServiceUri uri domain' = .ok serviceId' →
      domain = domain' ∧ serviceId = serviceId' := by
  refine ⟨?_, ?_, ?_⟩
  · intro der certificate names parsed named serviceId
    rw [verify_identityOf parsed named, identityOf_ok made, spiffeUris_singleton]
    rfl
  · intro der der' certificate certificate' names names' parsed parsed' named named' same
    rw [verify_identityOf parsed named, verify_identityOf parsed' named']
    apply identityOf_perm
    rw [spiffeUris_filter, spiffeUris_filter]
    exact same.map _
  · intro uri domain domain' serviceId serviceId' valid valid' parsed parsed'
    obtain ⟨rfl, _⟩ := parseSpiffeServiceUri_ok.mp parsed
    obtain ⟨same, _⟩ := parseSpiffeServiceUri_ok.mp parsed'
    exact spiffeServiceUri_injective (validateTrustDomain_ok valid) (validateTrustDomain_ok valid')
      same

/- A certificate of the order service with a DNS name and two URIs, as its parser and
SHA-256 read it. -/
def namedLeaf : List UInt8 :=
  (Base64url.decode (
    "MIIBiTCCATugAwIBAgIUMErrEmgLO0jxmO-LuZei60MRumcwBQYDK2VwMAwxCjAIBgNVBAMMAW8wHhcNMjYxMTE2" ++
    "MjI1ODA3WhcNMjYxMjE2MjI1ODA3WjAMMQowCAYDVQQDDAFvMCowBQYDK2VwAyEAostaZtLw_DwALCcPIbnXZDgl" ++
    "GpBXtKnR70pHMjELlROjga4wgaswHQYDVR0OBBYEFEyawKnl29_YE3nXMdd6KQwutvynMB8GA1UdIwQYMBaAFEya" ++
    "wKnl29_YE3nXMdd6KQwutvynMF4GA1UdEQRXMFWCD29yZGVycy5pbnRlcm5hbIYoc3BpZmZlOi8vaW50ZXJuYWwv" ++
    "c2Rrd29yay9zZXJ2aWNlL29yZGVyc4YYaHR0cHM6Ly9vcmRlcnMuaW50ZXJuYWwvMAkGA1UdEwQCMAAwBQYDK2Vw" ++
    "A0EAYvmk-74g2Xa7-0V-wlCr7kMFbAt2R-cPQWq2zBhskqPdVihlhqmNzcYUS-_UuPkG2bhT4SisuYtUaJ1GCJJx" ++
    "Dg")).getD []

def namedX509 : X509 where
  Certificate := Unit
  fromDer der := if der = namedLeaf then .ok () else .error "unknown certificate"
  subjectAlternativeName _ := .ok (some [.other,
    .uri "spiffe://internal/sdkwork/service/orders", .uri "https://orders.internal/"])
  sha256Hash der :=
    if der = namedLeaf then "65538883e44d1ffbb672a5fb7751c5a700ec34013ad3387e5647ea6da341f281"
    else ""

theorem namedLeaf_parsed : namedX509.fromDer namedLeaf = .ok () := by
  simp only [namedX509, if_true]

theorem spiffe_identity_of_orders :
    ∃ identity, RpcServiceIdentityPolicy.verifyTlsPeerCertificateDer namedX509
        ⟨"internal", ["billing", "orders"]⟩ namedLeaf = .ok identity ∧
      identity.serviceId = "orders" := by
  have made : RpcServiceIdentityPolicy.new "internal" ["orders", "billing"] =
      .ok ⟨"internal", ["billing", "orders"]⟩ := by decide +kernel
  have exactly := (spiffe_identity_exact namedX509 "internal" ["orders", "billing"] _ made).1
  exact (exactly namedLeaf () _ namedLeaf_parsed rfl "orders").mpr
    ⟨List.mem_cons_self, by decide +kernel⟩

end SdkworkRpc.Core
