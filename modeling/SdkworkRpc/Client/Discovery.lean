import SdkworkRpc.Client.LoadBalance
import SdkworkRpc.Core.ServiceIdentity
import SdkworkRpc.Core.Utils

/-! Endpoints from the discovery registry: the records of one service and what
`discover_endpoints` makes of them. -/
namespace SdkworkRpc.Client

open SdkworkRpc.Core SdkworkUtils

/- The variants the client tells apart; `other` stands for the rest of each enum. -/
inductive InstanceStatus where
  | serving | degraded | other
  deriving DecidableEq, Repr

inductive WatchEventType where
  | unspecified | heartbeat | instanceDeregistered | other
  deriving DecidableEq, Repr

/- The numbers on the wire are the protocol crate's own; `none` is a failed `try_from`. -/
structure DiscoveryProto where
  instanceStatus : Int → Option InstanceStatus
  watchEventType : Int → Option WatchEventType

structure ServiceInstance where
  instanceId : String
  endpoint : String
  weight : Nat
  status : Int
  deriving DecidableEq, Repr

def isServing (proto : DiscoveryProto) (status : Int) : Bool :=
  match proto.instanceStatus status with
  | some .serving => true
  | some .degraded => true
  | _ => false

variable [SdkworkUtils]

def mapDiscoveredInstance (proto : DiscoveryProto) (i : ServiceInstance) :
    Option ResolvedEndpoint :=
  if isBlank (some i.endpoint) then none
  else some ⟨i.endpoint, max i.weight 1, isServing proto i.status⟩

/- The part of `discover_endpoints` after the response has arrived. -/
def discoverEndpoints (proto : DiscoveryProto) (serviceName : String)
    (instances : List ServiceInstance) : RpcFrameworkResult (List ResolvedEndpoint) :=
  let endpoints := (instances.filterMap (mapDiscoveredInstance proto)).filter (·.healthy)
  if endpoints.isEmpty then
    .error (.discovery ("no healthy instances resolved for service " ++ serviceName))
  else .ok endpoints

def names (endpoints : List ResolvedEndpoint) : List String := endpoints.map (·.endpoint)

/-- Discovery offers the instance: it is Serving or Degraded and its endpoint is not blank. -/
def offered (proto : DiscoveryProto) (i : ServiceInstance) : Bool :=
  isServing proto i.status && !isBlank (some i.endpoint)

def Offers (proto : DiscoveryProto) (instances : List ServiceInstance) (endpoint : String) : Prop :=
  ∃ i ∈ instances, offered proto i = true ∧ i.endpoint = endpoint

instance (proto : DiscoveryProto) (instances : List ServiceInstance) (endpoint : String) :
    Decidable (Offers proto instances endpoint) :=
  inferInstanceAs (Decidable (∃ i ∈ instances, _))

theorem mapDiscoveredInstance_healthy {proto : DiscoveryProto} {i : ServiceInstance}
    {endpoint : String} :
    (∃ e, mapDiscoveredInstance proto i = some e ∧ e.healthy = true ∧ e.endpoint = endpoint) ↔
      offered proto i = true ∧ i.endpoint = endpoint := by
  unfold mapDiscoveredInstance offered
  cases blank : isBlank (some i.endpoint) with
  | true => simp
  | false => simp

theorem discovered_names {proto : DiscoveryProto} {instances : List ServiceInstance}
    {endpoint : String} :
    endpoint ∈ names ((instances.filterMap (mapDiscoveredInstance proto)).filter (·.healthy)) ↔
      Offers proto instances endpoint := by
  unfold names Offers
  simp only [List.mem_map, List.mem_filter, List.mem_filterMap]
  constructor
  · rintro ⟨e, ⟨⟨i, member, mapped⟩, healthy⟩, same⟩
    exact ⟨i, member, mapDiscoveredInstance_healthy.mp ⟨e, mapped, healthy, same⟩⟩
  · rintro ⟨i, member, visible⟩
    obtain ⟨e, mapped, healthy, same⟩ := mapDiscoveredInstance_healthy.mpr visible
    exact ⟨e, ⟨⟨i, member, mapped⟩, healthy⟩, same⟩

def resultNames : RpcFrameworkResult (List ResolvedEndpoint) → List String
  | .ok endpoints => names endpoints
  | .error _ => []

theorem discoverEndpoints_names (proto : DiscoveryProto) (serviceName : String)
    (instances : List ServiceInstance) (endpoint : String) :
    endpoint ∈ resultNames (discoverEndpoints proto serviceName instances) ↔
      Offers proto instances endpoint := by
  rw [← discovered_names]
  simp only [discoverEndpoints]
  split
  · rename_i empty
    rw [List.isEmpty_iff.mp empty]
    exact Iff.rfl
  · exact Iff.rfl

end SdkworkRpc.Client
