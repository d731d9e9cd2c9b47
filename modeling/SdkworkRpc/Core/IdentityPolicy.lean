import SdkworkRpc.Core.ServiceIdentity
import SdkworkRpc.Library.Machine

/-! The policy that derives a service identity from a peer certificate. Parsing the
certificate and hashing it are the libraries' part. -/
namespace SdkworkRpc.Core

open Machine Text

def spiffeServicePathPrefix : String := "/sdkwork/service/"

inductive GeneralName where
  | uri (value : String)
  | other
  deriving DecidableEq, Repr

/- The certificate parser and the digest: an error carries its text. -/
structure X509 where
  Certificate : Type
  fromDer : List UInt8 → Except String Certificate
  subjectAlternativeName : Certificate → Except String (Option (List GeneralName))
  sha256Hash : List UInt8 → String

/-- The names are those of a set: sorted, each one once. -/
structure RpcServiceIdentityPolicy where
  trustDomain : String
  allowedServiceIds : List String
  deriving DecidableEq, Repr

def insertServiceId (serviceId : String) : List String → List String
  | [] => [serviceId]
  | x :: rest =>
    if serviceId = x then x :: rest
    else if serviceId < x then serviceId :: x :: rest
    else x :: insertServiceId serviceId rest

def collectServiceIds (serviceIds : List String) : List String :=
  serviceIds.foldl (fun set serviceId => insertServiceId serviceId set) []

def trustDomainByte (b : UInt8) : Bool :=
  (48 ≤ b && b ≤ 57) || (65 ≤ b && b ≤ 90) || (97 ≤ b && b ≤ 122) || b == 45 || b == 46

def validateTrustDomain (trustDomain : String) : RpcFrameworkResult Unit :=
  if trustDomain.isEmpty || (bytes trustDomain).length > 253 then
    .error (.configuration "SPIFFE trust_domain must contain 1 to 253 characters")
  else if !(bytes trustDomain).all trustDomainByte then
    .error (.configuration "SPIFFE trust_domain contains unsupported characters")
  else .ok ()

def validateServiceIds : List String → RpcFrameworkResult Unit
  | [] => .ok ()
  | serviceId :: rest => do
    validateIdentifier "service_id" serviceId
    validateServiceIds rest

def RpcServiceIdentityPolicy.new (trustDomain : String) (allowedServiceIds : List String) :
    RpcFrameworkResult RpcServiceIdentityPolicy := do
  validateTrustDomain trustDomain
  let ids := collectServiceIds allowedServiceIds
  if ids.isEmpty then
    .error (.configuration "rpc service identity policy requires at least one allowed service id")
  else
    validateServiceIds ids
    pure ⟨trustDomain, ids⟩

def RpcServiceIdentityPolicy.allows (policy : RpcServiceIdentityPolicy) (serviceId : String) :
    Bool := decide (serviceId ∈ policy.allowedServiceIds)

def parseSpiffeServiceUri (uri trustDomain : String) : RpcFrameworkResult String := do
  let start := "spiffe://" ++ trustDomain ++ spiffeServicePathPrefix
  let serviceId ← orInvalid (stripPrefix uri start)
    ("mTLS SPIFFE URI must match `" ++ start ++ "<service-id>`")
  ensure (!(serviceId.toList.contains '/' || serviceId.toList.contains '?' ||
    serviceId.toList.contains '#'))
    "mTLS SPIFFE service identity must not include path, query, or fragment suffixes"
  validateIdentifier "SPIFFE service_id" serviceId
  pure serviceId

def spiffeUris (names : List GeneralName) : List String :=
  names.filterMap fun name =>
    match name with
    | .uri uri => if startsWith uri "spiffe://" = true then some uri else none
    | .other => none

def RpcServiceIdentityPolicy.verifyTlsPeerCertificateDer (x509 : X509)
    (policy : RpcServiceIdentityPolicy) (certificateDer : List UInt8) :
    RpcFrameworkResult VerifiedRpcServiceIdentity := do
  let certificate ← (x509.fromDer certificateDer).mapError fun error =>
    .validation ("mTLS peer certificate is not valid DER: " ++ error)
  let subjectAltName ← (x509.subjectAlternativeName certificate).mapError fun error =>
    .validation ("mTLS peer certificate SAN is invalid: " ++ error)
  let names ← orInvalid subjectAltName "mTLS peer certificate must include one SPIFFE URI SAN"
  match spiffeUris names with
  | [spiffeUri] =>
    let serviceId ← parseSpiffeServiceUri spiffeUri policy.trustDomain
    ensure (policy.allows serviceId)
      ("mTLS peer service identity `" ++ serviceId ++ "` is not allowed")
    pure ⟨serviceId, policy.trustDomain, spiffeUri, x509.sha256Hash certificateDer⟩
  | uris => .error (.validation
      ("mTLS peer certificate must include exactly one SPIFFE URI SAN, found " ++
        toString uris.length))

theorem verifyTlsPeerCertificateDer_allowed {x509 : X509} {policy : RpcServiceIdentityPolicy}
    {certificateDer : List UInt8} {identity : VerifiedRpcServiceIdentity}
    (derived : policy.verifyTlsPeerCertificateDer x509 certificateDer = .ok identity) :
    policy.allows identity.serviceId = true ∧ identity.trustDomain = policy.trustDomain := by
  unfold RpcServiceIdentityPolicy.verifyTlsPeerCertificateDer at derived
  obtain ⟨certificate, -, derived⟩ := bind_ok derived
  obtain ⟨subjectAltName, -, derived⟩ := bind_ok derived
  obtain ⟨names, -, derived⟩ := bind_ok derived
  split at derived
  · obtain ⟨serviceId, -, derived⟩ := bind_ok derived
    obtain ⟨_, allowed, derived⟩ := bind_ok derived
    cases derived
    exact ⟨ensure_ok allowed, rfl⟩
  · cases derived

end SdkworkRpc.Core
