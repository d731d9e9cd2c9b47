import SdkworkRpc.Core.ServiceIdentity
import SdkworkRpc.Library.Machine

/-! TLS and mTLS settings of a client channel. -/
namespace SdkworkRpc.Client

open SdkworkRpc.Core

structure RpcTlsConfig where
  serverCaCertificatePath : Option String
  clientCertPath : Option String
  clientKeyPath : Option String
  domain : Option String
  deriving DecidableEq, Repr

def RpcTlsConfig.serverVerified : RpcTlsConfig := ⟨none, none, none, none⟩

/- What a build and its machine supply: whether the `tls` feature is on, and the files. -/
structure Build where
  tlsFeature : Bool
  pathExists : String → Bool
  read : String → Except String (List UInt8)

def requirePath (build : Build) (field path : String) : RpcFrameworkResult Unit :=
  if build.pathExists path then .ok ()
  else .error (.configuration ("tls " ++ field ++ " does not exist: " ++ path))

def RpcTlsConfig.validate (build : Build) (config : RpcTlsConfig) : RpcFrameworkResult Unit := do
  match config.serverCaCertificatePath with
  | some path => requirePath build "server_ca_certificate_path" path
  | none => pure ()
  match config.clientCertPath, config.clientKeyPath with
  | some cert, some key => do
    requirePath build "client_cert_path" cert
    requirePath build "client_key_path" key
  | some cert, none =>
    .error (.configuration ("tls client_cert_path is set but client_key_path is missing; " ++
      "both must be provided for mTLS (cert=" ++ cert ++ ")"))
  | none, some key =>
    .error (.configuration ("tls client_key_path is set but client_cert_path is missing; " ++
      "both must be provided for mTLS (key=" ++ key ++ ")"))
  | none, none => .ok ()

/- The values tonic's `ClientTlsConfig` is built from. -/
structure ClientTlsConfig where
  domainName : Option String
  caCertificate : Option (List UInt8)
  webpkiRoots : Bool
  identity : Option (List UInt8 × List UInt8)
  deriving DecidableEq, Repr

def readPem (build : Build) (what path : String) : RpcFrameworkResult (List UInt8) :=
  (build.read path).mapError fun error =>
    .configuration ("failed to read tls " ++ what ++ " " ++ path ++ ": " ++ error)

def buildClientTlsConfig (build : Build) (config : RpcTlsConfig) :
    RpcFrameworkResult ClientTlsConfig :=
  if !build.tlsFeature then
    .error (.configuration ("tls config supplied but the `tls` cargo feature is not enabled; " ++
      "enable `sdkwork-rpc-client/tls` for production TLS/mTLS"))
  else do
    config.validate build
    let trusted ← match config.serverCaCertificatePath with
      | some path => do
        let pem ← readPem build "ca certificate" path
        pure (⟨config.domain, some pem, false, none⟩ : ClientTlsConfig)
      | none => pure ⟨config.domain, none, true, none⟩
    match config.clientCertPath, config.clientKeyPath with
    | some certPath, some keyPath => do
      let certPem ← readPem build "client cert" certPath
      let keyPem ← readPem build "client key" keyPath
      pure { trusted with identity := some (certPem, keyPem) }
    | _, _ => pure trusted

end SdkworkRpc.Client
