import SdkworkRpc.Library.Machine
import SdkworkRpc.Core.Utils
import Mathlib.Logic.Function.Basic

/-! Registration of an instance with the discovery registry. -/
namespace SdkworkRpc.Discovery

open Machine SdkworkUtils

inductive DiscoveryRegistrationError where
  | validation (message : String)
  | transport (message : String)
  | rpc (message : String)
  deriving DecidableEq, Repr

abbrev Outcome (α : Type) := Except DiscoveryRegistrationError α

structure DiscoveryInstanceConfig where
  discoveryEndpoint : String
  registryNamespace : String
  environment : String
  serviceName : String
  instanceId : String
  advertisedEndpoint : String
  protocol : String
  version : String
  region : String
  zone : String
  leaseTtlSeconds : UInt64
  subjectId : String
  metadata : List (String × String)
  revisionCasOnRegister : Bool
  expectedRevision : Option Nat

def requireNonBlank [SdkworkUtils] (value field : String) : Except String Unit :=
  if isBlank (some value) then .error (field ++ " is required") else .ok ()

def requireNonEmpty [SdkworkUtils] (value field : String) : Outcome Unit :=
  (requireNonBlank value field).mapError .validation

def DiscoveryInstanceConfig.validate [SdkworkUtils] (config : DiscoveryInstanceConfig) :
    Outcome Unit := do
  requireNonEmpty config.discoveryEndpoint "discovery_endpoint"
  requireNonEmpty config.registryNamespace "namespace"
  requireNonEmpty config.environment "environment"
  requireNonEmpty config.serviceName "service_name"
  requireNonEmpty config.instanceId "instance_id"
  requireNonEmpty config.advertisedEndpoint "advertised_endpoint"
  requireNonEmpty config.protocol "protocol"
  requireNonEmpty config.version "version"
  requireNonEmpty config.region "region"
  requireNonEmpty config.zone "zone"
  requireNonEmpty config.subjectId "subject_id"
  if config.leaseTtlSeconds = 0 then
    .error (.validation "lease_ttl_seconds must be greater than zero")
  else if !config.metadata.any fun entry => entry.1 == "rpc_surface" then
    .error (.validation "metadata.rpc_surface is required")
  else .ok ()

structure InstanceKey where
  registryNamespace : String
  environment : String
  serviceName : String
  instanceId : String
  deriving DecidableEq

structure RegisterInstanceRequest where
  key : InstanceKey
  endpoint : String
  protocol : String
  version : String
  region : String
  zone : String
  weight : Nat
  priority : Nat
  metadata : List (String × String)
  leaseTtlSeconds : UInt64
  expectedRevision : Option Nat
  persistent : Bool
  deriving DecidableEq

def DiscoveryInstanceConfig.key (config : DiscoveryInstanceConfig) : InstanceKey :=
  ⟨config.registryNamespace, config.environment, config.serviceName, config.instanceId⟩

/- The request of `register`; its status is always Serving. -/
def DiscoveryInstanceConfig.request (config : DiscoveryInstanceConfig)
    (expectedRevision : Option Nat) : RegisterInstanceRequest :=
  ⟨config.key, config.advertisedEndpoint, config.protocol, config.version, config.region,
    config.zone, 100, 0, config.metadata, config.leaseTtlSeconds, expectedRevision, false⟩

inductive RetrieveReply where
  | found (revision : Nat)
  | withoutInstance
  | notFound
  | failed (status : String)
  deriving DecidableEq

inductive Resolution where
  | known (expectedRevision : Option Nat)
  | retrieve
  deriving DecidableEq

/- The part of `resolve_expected_revision` before its RPC, and the part after it. -/
def resolveExpectedRevision (config : DiscoveryInstanceConfig) : Resolution :=
  match config.expectedRevision with
  | some expectedRevision => .known (some expectedRevision)
  | none => if !config.revisionCasOnRegister then .known none else .retrieve

def retrievedRevision : RetrieveReply → Outcome (Option Nat)
  | .found revision => .ok (some revision)
  | .withoutInstance => .ok none
  | .notFound => .ok none
  | .failed status => .error (.rpc status)

structure DiscoveryInstanceHandle where
  leaseId : String
  renewInterval : Duration

/- The part of `register` after a successful reply. -/
def DiscoveryInstanceConfig.handle [SdkworkUtils] (config : DiscoveryInstanceConfig)
    (leaseId : String) : Outcome DiscoveryInstanceHandle :=
  if isBlank (some leaseId) then
    .error (.rpc "register_instance returned empty lease_id")
  else .ok ⟨leaseId, .fromSecs (max config.leaseTtlSeconds 3 / 3)⟩

/-! ## The registry's store -/

/-- Each record with the revision that wrote it, none newer than the store's own. -/
structure Store where
  revision : Nat
  cells : InstanceKey → Option (Nat × RegisterInstanceRequest)
  bounded : ∀ key cell, cells key = some cell → cell.1 ≤ revision

def Store.empty : Store := ⟨0, fun _ => none, nofun⟩

def Store.retrieve (store : Store) (key : InstanceKey) : RetrieveReply :=
  match store.cells key with
  | some cell => .found cell.1
  | none => .notFound

/-- An expected revision must be the present one; without one every write is accepted. -/
def Store.accepts (store : Store) (request : RegisterInstanceRequest) : Bool :=
  match request.expectedRevision with
  | some expected => (store.cells request.key).map Prod.fst == some expected
  | none => true

def Store.write (store : Store) (request : RegisterInstanceRequest) (skipped : Nat) : Store where
  revision := store.revision + 1 + skipped
  cells := Function.update store.cells request.key (some (store.revision + 1 + skipped, request))
  bounded := by
    intro key cell found
    by_cases same : key = request.key
    · subst same
      rw [Function.update_self] at found
      cases Option.some.inj found
      exact Nat.le_refl _
    · rw [Function.update_of_ne same] at found
      have old := store.bounded key cell found
      omega

def Store.register (store : Store) (request : RegisterInstanceRequest) (skipped : Nat) :
    Option Store :=
  if store.accepts request then some (store.write request skipped) else none

end SdkworkRpc.Discovery
