import SdkworkRpc.Discovery.Lifecycle
import SdkworkRpc.Discovery.RpcMetadata
import SdkworkRpc.Library.Run

/-! The calls that one instance makes to the registry: those of `register`, and after it the
renewals and deregistrations that any task makes through the shared handle. -/
namespace SdkworkRpc.Discovery.Instance

open Machine SdkworkUtils Client Run

inductive RegistryCall where
  | retrieve (key : InstanceKey)
  | register (request : RegisterInstanceRequest)
  | renew (leaseId : String) (leaseTtlSeconds : UInt64)
  | deregister (key : InstanceKey)
  deriving DecidableEq

def RegistryCall.reads : RegistryCall → Bool
  | .retrieve _ => true
  | _ => false

structure Sent (t : Tonic) where
  call : RegistryCall
  metadata : MetadataMap t

def send {t : Tonic} (call : RegistryCall) (template : List (String × String)) : Sent t :=
  ⟨call, applyMetadataTemplate (emptyMap t) template⟩

/- The handle of `register` with what its calls are made of. -/
structure Handle where
  config : DiscoveryInstanceConfig
  lease : DiscoveryInstanceHandle
  metadataTemplate : List (String × String)

def Handle.renewOnce {t : Tonic} (h : Handle) : Sent t :=
  send (.renew h.lease.leaseId h.config.leaseTtlSeconds) h.metadataTemplate

def Handle.deregister {t : Tonic} (h : Handle) : Sent t :=
  send (.deregister h.config.key) h.metadataTemplate

/- Where `register` stands. The template of the writes is made before the revision is
resolved, and kept. -/
inductive Stage where
  | entered
  | connecting
  | retrieving (metadataTemplate : List (String × String))
  | registering (metadataTemplate : List (String × String))
  | failed (error : DiscoveryRegistrationError)
  | registered (handle : Handle)

/- What comes from outside; the random draws are taken with the connection. -/
inductive Input where
  | validate
  | connected (outcome : Except String Unit) (write read : Draws)
  | retrieved (reply : RetrieveReply)
  | answered (reply : Except String String)
  | renew
  | deregister

/-- The stage, the calls sent so far, newest first, and the lease the registry granted. -/
structure State (t : Tonic) where
  stage : Stage
  sent : List (Sent t)
  granted : Option String

def State.start (t : Tonic) : State t := ⟨.entered, [], none⟩

/-- `register`, from one await to the next, and the calls of its handle. -/
def step [SdkworkUtils] {t : Tonic} (names : MetadataNames) (config : DiscoveryInstanceConfig)
    (s : State t) : Input → Option (State t)
  | .validate => match s.stage with
    | .entered => match config.validate with
      | .ok _ => some { s with stage := .connecting }
      | .error error => some { s with stage := .failed error }
    | _ => none
  | .connected outcome write read => match s.stage with
    | .connecting => match outcome with
      | .error error => some { s with stage := .failed (.transport error) }
      | .ok _ =>
        let template := unsignedRegistryWriteMetadata names config.subjectId write
        match resolveExpectedRevision config with
        | .known expected => some { s with
            stage := .registering template
            sent := send (.register (config.request expected)) template :: s.sent }
        | .retrieve => some { s with
            stage := .retrieving template
            sent := send (.retrieve config.key)
              (unsignedRegistryReadMetadata names config.subjectId read) :: s.sent }
    | _ => none
  | .retrieved reply => match s.stage with
    | .retrieving template => match retrievedRevision reply with
      | .ok expected => some { s with
          stage := .registering template
          sent := send (.register (config.request expected)) template :: s.sent }
      | .error error => some { s with stage := .failed error }
    | _ => none
  | .answered reply => match s.stage with
    | .registering template => match reply with
      | .error status => some { s with stage := .failed (.rpc status) }
      | .ok leaseId => match config.handle leaseId with
        | .ok lease => some { s with
            stage := .registered ⟨config, lease, template⟩, granted := some leaseId }
        | .error error => some { s with stage := .failed error, granted := some leaseId }
    | _ => none
  | .renew => match s.stage with
    | .registered handle => some { s with sent := handle.renewOnce :: s.sent }
    | _ => none
  | .deregister => match s.stage with
    | .registered handle => some { s with sent := handle.deregister :: s.sent }
    | _ => none

/-! ## The script of an instance -/

section

variable {t : Tonic} {names : MetadataNames} {config : DiscoveryInstanceConfig}

/-- The calls of `register` itself: the revision is retrieved at most once, and only where
the configuration leaves it open; then there is at most one registration. -/
inductive Opening (names : MetadataNames) (config : DiscoveryInstanceConfig) (write read : Draws) :
    List (Sent t) → Prop
  | silent : Opening names config write read []
  | retrieves (unknown : resolveExpectedRevision config = .retrieve) :
    Opening names config write read
      [send (.retrieve config.key) (unsignedRegistryReadMetadata names config.subjectId read)]
  | registers {expected : Option Nat} (known : resolveExpectedRevision config = .known expected) :
    Opening names config write read
      [send (.register (config.request expected))
        (unsignedRegistryWriteMetadata names config.subjectId write)]
  | revises {expected : Option Nat} (unknown : resolveExpectedRevision config = .retrieve) :
    Opening names config write read
      [send (.register (config.request expected))
        (unsignedRegistryWriteMetadata names config.subjectId write),
        send (.retrieve config.key) (unsignedRegistryReadMetadata names config.subjectId read)]

/-- The draws whose identifiers a call carries: those of the reads or those of the writes. -/
def share (write read : Draws) (call : RegistryCall) : Draws := if call.reads then read else write

def Identified (names : MetadataNames) (write read : Draws) (r : Sent t) : Prop :=
  HoldsExactly r.metadata names.requestId (share write read r.call).requestId.hyphenated ∧
    HoldsExactly r.metadata names.traceparent (buildTraceparent (share write read r.call))

theorem opening_identified (rules : RegistryRules t names) {write read : Draws}
    {opening : List (Sent t)} (opens : Opening names config write read opening) :
    ∀ r ∈ opening, Identified names write read r := by
  have reads : Identified names write read (send (t := t) (.retrieve config.key)
      (unsignedRegistryReadMetadata names config.subjectId read)) :=
    registry_identifiers rules (emptyMap t)
  have writes : ∀ expected, Identified names write read (send (t := t)
      (.register (config.request expected))
      (unsignedRegistryWriteMetadata names config.subjectId write)) :=
    fun _ => registry_identifiers rules (emptyMap t)
  cases opens with
  | silent => simp
  | retrieves _ => simpa using reads
  | registers _ => simpa using writes _
  | revises _ => simpa using ⟨writes _, reads⟩

variable [SdkworkUtils]

/-- What a handle is made of: the template of the registration, and a lease that was granted
and is not blank. -/
structure Granted (names : MetadataNames) (config : DiscoveryInstanceConfig) (write : Draws)
    (handle : Handle) (granted : Option String) : Prop where
  own : handle.config = config
  template : handle.metadataTemplate =
    unsignedRegistryWriteMetadata names config.subjectId write
  lease : granted = some handle.lease.leaseId
  given : isBlank (some handle.lease.leaseId) = false

def Known (names : MetadataNames) (config : DiscoveryInstanceConfig) (write read : Draws)
    (sent : List (Sent t)) (granted : Option String) : Stage → Prop
  | .entered | .connecting => sent = [] ∧ granted = none
  | .retrieving template =>
    template = unsignedRegistryWriteMetadata names config.subjectId write ∧
      resolveExpectedRevision config = .retrieve ∧ granted = none ∧
      sent = [send (.retrieve config.key)
        (unsignedRegistryReadMetadata names config.subjectId read)]
  | .registering template =>
    template = unsignedRegistryWriteMetadata names config.subjectId write ∧
      Opening names config write read sent ∧ granted = none
  | .failed error => Opening names config write read sent ∧
      ∀ leaseId, granted = some leaseId → isBlank (some leaseId) = true ∧
        error = .rpc "register_instance returned empty lease_id"
  | .registered handle => Granted names config write handle granted ∧
      ∃ follow opening, sent = follow ++ opening ∧ Opening names config write read opening ∧
        ∀ r ∈ follow, r = handle.renewOnce ∨ r = handle.deregister

def Scripted (names : MetadataNames) (config : DiscoveryInstanceConfig) (s : State t) : Prop :=
  ∃ write read, Known names config write read s.sent s.granted s.stage

theorem handle_ok {leaseId : String} {lease : DiscoveryInstanceHandle}
    (made : config.handle leaseId = .ok lease) :
    lease.leaseId = leaseId ∧ isBlank (some leaseId) = false := by
  unfold DiscoveryInstanceConfig.handle at made
  split at made
  · cases made
  · rename_i given
    cases made
    exact ⟨rfl, by simpa using given⟩

theorem handle_error {leaseId : String} {error : DiscoveryRegistrationError}
    (refused : config.handle leaseId = .error error) :
    isBlank (some leaseId) = true ∧ error = .rpc "register_instance returned empty lease_id" := by
  unfold DiscoveryInstanceConfig.handle at refused
  split at refused
  · rename_i blank
    cases refused
    exact ⟨blank, rfl⟩
  · cases refused

theorem Known.follow {write read : Draws} {sent : List (Sent t)} {granted : Option String}
    {handle : Handle} {r : Sent t}
    (known : Known names config write read sent granted (.registered handle))
    (own : r = handle.renewOnce ∨ r = handle.deregister) :
    Known names config write read (r :: sent) granted (.registered handle) := by
  obtain ⟨made, follow, opening, rfl, opens, follows⟩ := known
  exact ⟨made, r :: follow, opening, rfl, opens, List.forall_mem_cons.mpr ⟨own, follows⟩⟩

theorem step_scripted (s : State t) (input : Input) (next : State t)
    (held : Scripted names config s) (taken : step names config s input = some next) :
    Scripted names config next := by
  obtain ⟨write, read, known⟩ := held
  revert taken
  fun_cases step names config s input with
  | case1 stands _ _ =>
    rintro ⟨⟩
    rw [stands] at known
    exact ⟨write, read, known⟩
  | case2 stands error _ =>
    rintro ⟨⟩
    rw [stands] at known
    exact ⟨write, read, known.1 ▸ .silent, by simp [known.2]⟩
  | case4 write read stands error =>
    rintro ⟨⟩
    rw [stands] at known
    exact ⟨write, read, known.1 ▸ .silent, by simp [known.2]⟩
  -- The draws of the connection are those of every call from here on.
  | case5 write read stands _ template expected revision =>
    rintro ⟨⟩
    rw [stands] at known
    refine ⟨write, read, rfl, ?_, known.2⟩
    rw [known.1]
    exact .registers revision
  | case6 write read stands _ template revision =>
    rintro ⟨⟩
    rw [stands] at known
    refine ⟨write, read, rfl, revision, known.2, ?_⟩
    rw [known.1]
  | case8 reply template stands expected _ =>
    rintro ⟨⟩
    rw [stands] at known
    obtain ⟨rfl, unknown, ungranted, sent⟩ := known
    refine ⟨write, read, rfl, ?_, ungranted⟩
    rw [sent]
    exact .revises unknown
  | case9 reply template stands error _ =>
    rintro ⟨⟩
    rw [stands] at known
    obtain ⟨rfl, unknown, ungranted, sent⟩ := known
    refine ⟨write, read, ?_, by simp [ungranted]⟩
    rw [sent]
    exact .retrieves unknown
  | case11 template stands status =>
    rintro ⟨⟩
    rw [stands] at known
    exact ⟨write, read, known.2.1, by simp [known.2.2]⟩
  | case12 template stands leaseId lease made =>
    rintro ⟨⟩
    rw [stands] at known
    obtain ⟨rfl, opens, -⟩ := known
    obtain ⟨rfl, given⟩ := handle_ok made
    exact ⟨write, read, ⟨rfl, rfl, rfl, given⟩, [], _, rfl, opens, by simp⟩
  | case13 template stands leaseId error refused =>
    rintro ⟨⟩
    rw [stands] at known
    refine ⟨write, read, known.2.1, ?_⟩
    rintro _ ⟨⟩
    exact handle_error refused
  | case15 handle stands =>
    rintro ⟨⟩
    rw [stands] at known
    refine ⟨write, read, ?_⟩
    simp only [stands]
    exact known.follow (.inl rfl)
  | case17 handle stands =>
    rintro ⟨⟩
    rw [stands] at known
    refine ⟨write, read, ?_⟩
    simp only [stands]
    exact known.follow (.inr rfl)
  | _ =>
    intro taken
    cases taken

theorem Scripted.calls {s : State t} (scripted : Scripted names config s) :
    ∃ write read follow opening, s.sent = follow ++ opening ∧
      Opening names config write read opening ∧
      (∀ r ∈ follow, ∃ handle, s.stage = .registered handle ∧
        Granted names config write handle s.granted ∧
        (r = handle.renewOnce ∨ r = handle.deregister)) ∧
      ∀ leaseId, s.granted = some leaseId →
        (isBlank (some leaseId) = true ↔ ∃ error, s.stage = .failed error) := by
  obtain ⟨write, read, known⟩ := scripted
  cases stands : s.stage with
  | entered | connecting =>
    rw [stands] at known
    exact ⟨write, read, [], [], known.1, .silent, by simp, by simp [known.2]⟩
  | retrieving template =>
    rw [stands] at known
    obtain ⟨-, unknown, ungranted, sent⟩ := known
    exact ⟨write, read, [], _, sent, .retrieves unknown, by simp, by simp [ungranted]⟩
  | registering template =>
    rw [stands] at known
    exact ⟨write, read, [], _, rfl, known.2.1, by simp, by simp [known.2.2]⟩
  | failed error =>
    rw [stands] at known
    refine ⟨write, read, [], _, rfl, known.1, by simp, fun leaseId granted => ?_⟩
    exact iff_of_true (known.2 leaseId granted).1 ⟨error, rfl⟩
  | registered handle =>
    rw [stands] at known
    obtain ⟨made, follow, opening, split, opens, follows⟩ := known
    refine ⟨write, read, follow, opening, split, opens,
      fun r member => ⟨handle, rfl, made, follows r member⟩, fun leaseId granted => ?_⟩
    cases made.lease.symm.trans granted
    exact iff_of_false (by simp [made.given]) (by simp)

theorem follow_identified (rules : RegistryRules t names) {write read : Draws} {handle : Handle}
    {granted : Option String} (made : Granted names config write handle granted) {r : Sent t}
    (own : r = handle.renewOnce ∨ r = handle.deregister) : Identified names write read r := by
  rcases own with rfl | rfl
  · unfold Identified Handle.renewOnce send
    rw [made.template]
    exact registry_identifiers rules (emptyMap t)
  · unfold Identified Handle.deregister send
    rw [made.template]
    exact registry_identifiers rules (emptyMap t)

end

attribute [local instance] languageUtils

def ordersConfig : DiscoveryInstanceConfig where
  discoveryEndpoint := "127.0.0.1:19090"
  registryNamespace := "sdkwork"
  environment := "development"
  serviceName := "orders"
  instanceId := "orders-1"
  advertisedEndpoint := "grpc://127.0.0.1:50051"
  protocol := "grpc"
  version := "0.1.0"
  region := "local"
  zone := "local"
  leaseTtlSeconds := 30
  subjectId := "orders-host"
  metadata := [("rpc_surface", "app")]
  revisionCasOnRegister := true
  expectedRevision := none

def shortLife : List Input :=
  [.validate, .connected (.ok ()) sampleDraws sampleDraws, .retrieved (.found 4),
    .answered (.ok "lease-1"), .renew, .renew, .deregister]

end SdkworkRpc.Discovery.Instance
