import SdkworkRpc.Client.WatchCache
import SdkworkRpc.Library.Run
import Mathlib.Data.List.Nodup

/-! The registry of one service, as the watch stream reports it, and the cache that
follows the stream. The registry is keyed by instance, the cache by endpoint. -/
namespace SdkworkRpc.Client

open Run SdkworkUtils

structure Registry where
  instances : List ServiceInstance
  unique : (instances.map (·.instanceId)).Nodup

namespace Registry

def empty : Registry := ⟨[], List.nodup_nil⟩

def find (r : Registry) (instanceId : String) : Option ServiceInstance :=
  r.instances.find? fun i => i.instanceId = instanceId

def others (r : Registry) (instanceId : String) : List ServiceInstance :=
  r.instances.filter fun i => i.instanceId ≠ instanceId

def erase (r : Registry) (instanceId : String) : Registry :=
  ⟨r.others instanceId, (List.filter_sublist.map _).nodup r.unique⟩

def put (r : Registry) (i : ServiceInstance) : Registry where
  instances := i :: r.others i.instanceId
  unique := by
    rw [List.map_cons, List.nodup_cons]
    constructor
    · unfold others
      simp
    · exact (r.erase i.instanceId).unique

end Registry

inductive Mutation where
  | register (record : ServiceInstance)
  | updateStatus (instanceId : String) (status : Int)
  | deregister (instanceId : String)
  deriving DecidableEq

/- The numbers the server puts in its messages. A status update and a registration are
events of their own, neither heartbeats nor deregistrations. -/
structure RegistryServer extends DiscoveryProto where
  registeredCode : Int
  updatedCode : Int
  deregisteredCode : Int
  registered : watchEventType registeredCode = some .other
  updated : watchEventType updatedCode = some .other
  deregistered : watchEventType deregisteredCode = some .instanceDeregistered

namespace Mutation

def instanceId : Mutation → String
  | register record => record.instanceId
  | updateStatus instanceId _ => instanceId
  | deregister instanceId => instanceId

/-- The record the message carries: the new one, or for a deregistration the removed one. -/
def record (r : Registry) : Mutation → Option ServiceInstance
  | register record => some record
  | updateStatus instanceId status =>
    (r.find instanceId).map fun old => { old with status := status }
  | deregister instanceId => r.find instanceId

def code (server : RegistryServer) : Mutation → Int
  | register _ => server.registeredCode
  | updateStatus _ _ => server.updatedCode
  | deregister _ => server.deregisteredCode

def deregisters : Mutation → Bool
  | deregister _ => true
  | _ => false

end Mutation

/-- A mutation at a revision; an update or deregistration of an absent instance is refused. -/
def mutate (server : RegistryServer) (revision : Nat) (r : Registry) (m : Mutation) :
    Option (Registry × WatchMessage) :=
  (m.record r).map fun record =>
    (if m.deregisters then r.erase m.instanceId else r.put record,
      ⟨some revision, m.code server, some record⟩)

theorem Registry.find_id {r : Registry} {instanceId : String} {i : ServiceInstance}
    (found : r.find instanceId = some i) : i.instanceId = instanceId := by
  simpa using List.find?_some found

theorem Mutation.record_id {r : Registry} {m : Mutation} {record : ServiceInstance}
    (carried : m.record r = some record) : record.instanceId = m.instanceId := by
  cases m with
  | register i =>
    cases Option.some.inj carried
    rfl
  | updateStatus instanceId status =>
    obtain ⟨old, found, rfl⟩ := Option.map_eq_some_iff.mp carried
    have same := Registry.find_id found
    exact same
  | deregister instanceId => exact Registry.find_id carried

theorem code_eventType (server : RegistryServer) (m : Mutation) :
    (server.watchEventType (m.code server)).getD .unspecified =
      if m.deregisters then .instanceDeregistered else .other := by
  cases m with
  | register record => simp [Mutation.code, server.registered, Mutation.deregisters]
  | updateStatus instanceId status => simp [Mutation.code, server.updated, Mutation.deregisters]
  | deregister instanceId => simp [Mutation.code, server.deregistered, Mutation.deregisters]

variable [SdkworkUtils]

def OwnOffer (proto : DiscoveryProto) (r : Registry) (instanceId endpoint : String) : Prop :=
  ∃ old, r.find instanceId = some old ∧ offered proto old = true ∧ old.endpoint = endpoint

theorem offers_split (proto : DiscoveryProto) (r : Registry) (instanceId endpoint : String) :
    Offers proto r.instances endpoint ↔
      OwnOffer proto r instanceId endpoint ∨ Offers proto (r.others instanceId) endpoint := by
  constructor
  · rintro ⟨i, member, visible⟩
    by_cases same : i.instanceId = instanceId
    · left
      refine ⟨i, ?_, visible⟩
      cases found : r.find instanceId with
      | none =>
        have absent := List.find?_eq_none.mp found i member
        simp [same] at absent
      | some old =>
        have ids := (Registry.find_id found).trans same.symm
        rw [List.inj_on_of_nodup_map r.unique (List.mem_of_find?_eq_some found) member ids]
    · right
      refine ⟨i, ?_, visible⟩
      simp [Registry.others, member, same]
  · rintro (⟨i, found, visible⟩ | ⟨i, member, visible⟩)
    · exact ⟨i, List.mem_of_find?_eq_some found, visible⟩
    · exact ⟨i, (List.mem_filter.mp member).1, visible⟩

theorem put_offers (proto : DiscoveryProto) (r : Registry) (record : ServiceInstance)
    (endpoint : String) :
    Offers proto (r.put record).instances endpoint ↔
      (offered proto record = true ∧ record.endpoint = endpoint) ∨
        Offers proto (r.others record.instanceId) endpoint := by
  unfold Offers Registry.put
  simp only [List.mem_cons, or_and_right, exists_or, exists_eq_left]

/-! ## The cache that follows the stream -/

structure Mirror where
  revision : Nat
  registry : Registry
  entry : Option CachedEndpoints

def Mirror.start : Mirror := ⟨0, .empty, none⟩

/- One mutation, and its message processed by the watch session at the given time. -/
def Mirror.step (server : RegistryServer) (s : Mirror) (action : Mutation × Nat) : Option Mirror :=
  (mutate server (s.revision + 1) s.registry action.1).map fun result =>
    ⟨s.revision + 1, result.1, applyMessage server.toDiscoveryProto action.2 result.2 s.entry⟩

/-- The endpoints of the cache are those that a discover would return. -/
def Agrees (server : RegistryServer) (serviceName : String) (s : Mirror) : Prop :=
  ∀ endpoint, endpoint ∈ entryNames s.entry ↔
    endpoint ∈ resultNames
      (discoverEndpoints server.toDiscoveryProto serviceName s.registry.instances)

def removing (server : RegistryServer) (m : Mutation) (record : ServiceInstance) : Bool :=
  m.deregisters || !isServing server.toDiscoveryProto record.status

/- An instance that is replaced was not offered under another endpoint, unless that one
is still offered by another instance; and the endpoint of a removal is offered by no other. -/
def KeepsOffers (server : RegistryServer) (s : Mirror) (action : Mutation × Nat) : Prop :=
  ∀ record ∈ action.1.record s.registry,
    (∀ old ∈ s.registry.find action.1.instanceId, offered server.toDiscoveryProto old = true →
      old.endpoint = record.endpoint ∨
        Offers server.toDiscoveryProto (s.registry.others action.1.instanceId) old.endpoint) ∧
    (removing server action.1 record = true →
      ¬ Offers server.toDiscoveryProto (s.registry.others action.1.instanceId) record.endpoint)

instance (server : RegistryServer) (s : Mirror) (action : Mutation × Nat) :
    Decidable (KeepsOffers server s action) :=
  inferInstanceAs (Decidable (∀ record ∈ action.1.record s.registry, _))

theorem message_change (server : RegistryServer) (m : Mutation) (revision : Nat)
    (record : ServiceInstance) :
    change server.toDiscoveryProto ⟨some revision, m.code server, some record⟩ =
      if removing server m record then .remove record.endpoint
      else if isBlank (some record.endpoint) then .keep else .upsert record.endpoint := by
  unfold change DiscoveryProto.eventType removing
  simp only [code_eventType]
  cases m.deregisters <;> simp

end SdkworkRpc.Client
