import SdkworkRpc.Client.CacheFreshness
import SdkworkRpc.Client.Rotation
import SdkworkRpc.Client.Transport
import SdkworkRpc.Library.Interleaving

/-! The resolvers as a client stacks them: a watch cache over discovery, and a static list
behind both. Any number of callers resolve any services while the watch sessions of those
services write to the same cache. -/
namespace SdkworkRpc.Client.Stack

open SdkworkRpc.Core Machine SdkworkUtils Run

structure StaticNameResolver where
  endpoints : List ResolvedEndpoint

def StaticNameResolver.single (endpoint : String) : StaticNameResolver := ⟨[⟨endpoint, 100, true⟩]⟩

def StaticNameResolver.resolve (resolver : StaticNameResolver) : NameResolver :=
  fun _ => .ok resolver.endpoints

/-- `CompositeNameResolver::resolve`, once its primary has answered. -/
def compositeResolve (fallback : StaticNameResolver) (serviceName : String)
    (primary : RpcFrameworkResult (List ResolvedEndpoint)) :
    RpcFrameworkResult (List ResolvedEndpoint) :=
  match primary with
  | .ok endpoints =>
    if !endpoints.isEmpty then .ok endpoints else fallback.resolve serviceName
  | .error _ => fallback.resolve serviceName

inductive DiscoverReply where
  | unreachable (error : String)
  | failed (status : String)
  | instances (list : List ServiceInstance)

structure Shared where
  cache : String → Option CachedEndpoints
  clock : Nat

/- Where a `resolve` call stands: waiting for the discover call, or with its endpoints and
before the lock of the cache. -/
inductive Call where
  | idle
  | waiting (serviceName : String)
  | filling (serviceName : String) (endpoints : List ResolvedEndpoint)

inductive Move where
  | resolve (serviceName : String)
  | reply (reply : DiscoverReply)
  | fill

inductive Outside where
  | deliver (serviceName : String) (message : WatchMessage)
  | tick (nanos : Nat)

inductive Event (ι : Type*) where
  | quiet
  | delivered (serviceName : String) (message : WatchMessage)
  | received (serviceName : String) (list : List ServiceInstance)
  | answered (caller : ι) (serviceName : String)
      (result : RpcFrameworkResult (List ResolvedEndpoint))

structure Setup where
  proto : DiscoveryProto
  cacheTtl : Duration

section

variable [SdkworkUtils] {ι : Type*}

def callStep (setup : Setup) (i : ι) (g : Shared) : Call → Move → Option (Shared × Call × Event ι)
  | .idle, .resolve serviceName =>
    match cachedEndpoints setup.cacheTtl g.clock (g.cache serviceName) with
    | some endpoints => some (g, .idle, .answered i serviceName (.ok endpoints))
    | none =>
      if isBlank (some serviceName) then
        some (g, .idle, .answered i serviceName (.error (.validation "service_name is required")))
      else some (g, .waiting serviceName, .quiet)
  | .waiting serviceName, .reply (.unreachable error) =>
    some (g, .idle, .answered i serviceName (.error (.transport error)))
  | .waiting serviceName, .reply (.failed status) =>
    some (g, .idle, .answered i serviceName (.error (.discovery status)))
  | .waiting serviceName, .reply (.instances list) =>
    match discoverEndpoints setup.proto serviceName list with
    | .ok endpoints => some (g, .filling serviceName endpoints, .received serviceName list)
    | .error error => some (g, .idle, .answered i serviceName (.error error))
  | .filling serviceName endpoints, .fill =>
    some ({ g with cache := Function.update g.cache serviceName (some ⟨endpoints, g.clock⟩) },
      .idle, .answered i serviceName (.ok endpoints))
  | _, _ => none

def outsideStep (setup : Setup) (g : Shared) : Outside → Option (Shared × Event ι)
  | .deliver serviceName message =>
    let entry := applyMessage setup.proto g.clock message (g.cache serviceName)
    some ({ g with cache := Function.update g.cache serviceName entry },
      .delivered serviceName message)
  | .tick nanos => some ({ g with clock := g.clock + nanos }, .quiet)

abbrev World (ι : Type*) := Interleaving.State ι Shared Call (Event ι)
abbrev Action (ι : Type*) := Interleaving.Action ι Move Outside

def start (ι : Type*) : World ι := ⟨⟨fun _ => none, 0⟩, fun _ => .idle, []⟩

def step [DecidableEq ι] (setup : Setup) : World ι → Action ι → Option (World ι) :=
  Interleaving.System.next ⟨callStep setup, outsideStep setup⟩

/-! ## Where the endpoints of an answer come from -/

/-- The record has come in for the service, by a watch message or a discover response. -/
def Arrived (history : List (Event ι)) (serviceName : String) (i : ServiceInstance) : Prop :=
  (∃ message, .delivered serviceName message ∈ history ∧ message.serviceInstance = some i) ∨
    ∃ list, .received serviceName list ∈ history ∧ i ∈ list

/-- The endpoint is that of a record of the service that was Serving or Degraded. -/
def Known (proto : DiscoveryProto) (history : List (Event ι)) (serviceName : String)
    (e : ResolvedEndpoint) : Prop :=
  ∃ i, Arrived history serviceName i ∧ offered proto i = true ∧
    e = ⟨i.endpoint, max i.weight 1, true⟩

/-- Every answer with endpoints has some, and only such as were known when it was given. -/
def Sound (proto : DiscoveryProto) : List (Event ι) → Prop
  | [] => True
  | .answered _ serviceName (.ok endpoints) :: history =>
    (endpoints ≠ [] ∧ ∀ e ∈ endpoints, Known proto history serviceName e) ∧ Sound proto history
  | _ :: history => Sound proto history

section

variable {proto : DiscoveryProto} {history : List (Event ι)} {serviceName : String}
  {e : ResolvedEndpoint}

theorem Known.later (known : Known proto history serviceName e) (event : Event ι) :
    Known proto (event :: history) serviceName e := by
  obtain ⟨i, arrived, offers, same⟩ := known
  refine ⟨i, ?_, offers, same⟩
  rcases arrived with ⟨message, past, given⟩ | ⟨list, past, member⟩
  · exact .inl ⟨message, List.mem_cons_of_mem _ past, given⟩
  · exact .inr ⟨list, List.mem_cons_of_mem _ past, member⟩

theorem mapped_offered {i : ServiceInstance} (mapped : mapDiscoveredInstance proto i = some e)
    (healthy : e.healthy = true) :
    offered proto i = true ∧ e = ⟨i.endpoint, max i.weight 1, true⟩ := by
  unfold mapDiscoveredInstance at mapped
  split at mapped
  · cases mapped
  · rename_i given
    cases Option.some.inj mapped
    have serving : isServing proto i.status = true := healthy
    simp [offered, serving, given]

theorem discover_known {list : List ServiceInstance} {endpoints : List ResolvedEndpoint}
    (found : discoverEndpoints proto serviceName list = .ok endpoints) :
    endpoints ≠ [] ∧ ∀ e ∈ endpoints,
      Known proto (.received serviceName list :: history) serviceName e := by
  simp only [discoverEndpoints] at found
  split at found
  · cases found
  · rename_i some_left
    cases found
    refine ⟨fun empty => some_left (by rw [empty]; rfl), fun e member => ?_⟩
    obtain ⟨within, healthy⟩ := List.mem_filter.mp member
    obtain ⟨i, listed, mapped⟩ := List.mem_filterMap.mp within
    exact ⟨i, .inr ⟨list, List.mem_cons_self, listed⟩, mapped_offered mapped healthy⟩

theorem upsert_known {message : WatchMessage} {new : String}
    (changed : change proto message = .upsert new) :
    Known proto (.delivered serviceName message :: history) serviceName
      ⟨new, upsertWeight message, true⟩ := by
  unfold change at changed
  split at changed
  · cases changed
  · cases given : message.serviceInstance with
    | none =>
      rw [given] at changed
      cases changed
    | some i =>
      simp only [given] at changed
      split at changed
      · cases changed
      · rename_i serving
        split at changed
        · cases changed
        · rename_i solid
          cases changed
          simp only [Bool.or_eq_true, not_or, Bool.not_eq_true', Bool.not_eq_false] at serving
          refine ⟨i, .inl ⟨message, List.mem_cons_self, given⟩, ?_, ?_⟩
          · simp [offered, serving.2, solid]
          · simp only [upsertWeight, given]

theorem message_known {now : Nat} {message : WatchMessage} {entry : Option CachedEndpoints}
    (before : ∀ e ∈ entryEndpoints entry, Known proto history serviceName e) :
    ∀ e ∈ entryEndpoints (applyMessage proto now message entry),
      Known proto (.delivered serviceName message :: history) serviceName e := by
  intro e member
  rw [applyMessage_endpoints] at member
  cases changed : change proto message with
  | keep =>
    rw [changed] at member
    exact (before e member).later _
  | remove old =>
    rw [changed] at member
    exact (before e (List.mem_of_mem_filter member)).later _
  | upsert new =>
    rw [changed] at member
    rcases upsertEndpoint_mem member with rfl | earlier
    · exact upsert_known changed
    · exact (before e earlier).later _

end

/-! ## The cache under any number of callers -/

/-- What a `resolve` call can do in one step: answer from the cache, end with an error or
wait, keep the endpoints of a response, or write them to the cache and answer. -/
theorem callStep_cases {setup : Setup} {i : ι} {g g' : Shared} {p q : Call} {a : Move}
    {event : Event ι} (taken : callStep setup i g p a = some (g', q, event)) :
    (∃ serviceName endpoints, g' = g ∧ q = .idle ∧
      event = .answered i serviceName (.ok endpoints) ∧
      cachedEndpoints setup.cacheTtl g.clock (g.cache serviceName) = some endpoints) ∨
    (g' = g ∧ (∀ serviceName endpoints, q ≠ .filling serviceName endpoints) ∧
      ∀ caller serviceName endpoints, event ≠ .answered caller serviceName (.ok endpoints)) ∨
    (∃ serviceName list endpoints, g' = g ∧ q = .filling serviceName endpoints ∧
      event = .received serviceName list ∧
      discoverEndpoints setup.proto serviceName list = .ok endpoints) ∨
    ∃ serviceName endpoints, p = .filling serviceName endpoints ∧
      g' = { g with cache := Function.update g.cache serviceName (some ⟨endpoints, g.clock⟩) } ∧
      q = .idle ∧ event = .answered i serviceName (.ok endpoints) := by
  revert taken
  fun_cases callStep setup i g p a with
  | case1 serviceName endpoints hit =>
    rintro ⟨⟩
    exact .inl ⟨serviceName, endpoints, rfl, rfl, rfl, hit⟩
  | case6 serviceName list endpoints found =>
    rintro ⟨⟩
    exact .inr (.inr (.inl ⟨serviceName, list, endpoints, rfl, rfl, rfl, found⟩))
  | case8 serviceName endpoints =>
    rintro ⟨⟩
    exact .inr (.inr (.inr ⟨serviceName, endpoints, rfl, rfl, rfl, rfl⟩))
  | case9 =>
    intro taken
    cases taken
  | _ =>
    rintro ⟨⟩
    exact .inr (.inl ⟨rfl, by simp, by simp⟩)

theorem Sound.quietly {proto : DiscoveryProto} {history : List (Event ι)} {event : Event ι}
    (sound : Sound proto history)
    (other : ∀ i serviceName endpoints, event ≠ .answered i serviceName (.ok endpoints)) :
    Sound proto (event :: history) := by
  cases event with
  | answered i serviceName result =>
    cases result with
    | ok endpoints => exact absurd rfl (other i serviceName endpoints)
    | error _ => exact sound
  | _ => exact sound

def Founded (proto : DiscoveryProto) (g : Shared) (history : List (Event ι)) : Prop :=
  ∀ serviceName, ∀ e ∈ entryEndpoints (g.cache serviceName), Known proto history serviceName e

def provenance (proto : DiscoveryProto) : Interleaving.Outline ι Shared Call (Event ι) where
  common g history := Founded proto g history ∧ Sound proto history
  own _ _ history p := ∀ serviceName endpoints, p = .filling serviceName endpoints →
    endpoints ≠ [] ∧ ∀ e ∈ endpoints, Known proto history serviceName e

section

variable {proto : DiscoveryProto} {g : Shared} {history : List (Event ι)}

theorem Founded.later (founded : Founded proto g history) (event : Event ι) :
    Founded proto g (event :: history) :=
  fun serviceName e member => (founded serviceName e member).later event

theorem Founded.write (founded : Founded proto g history) {event : Event ι} {target : String}
    {entry : Option CachedEndpoints}
    (written : ∀ e ∈ entryEndpoints entry, Known proto (event :: history) target e) :
    Founded proto { g with cache := Function.update g.cache target entry } (event :: history) := by
  intro serviceName e member
  by_cases same : serviceName = target
  · subst same
    simp only [Function.update_self] at member
    exact written e member
  · simp only [Function.update_of_ne same] at member
    exact (founded serviceName e member).later event

end

theorem own_later {proto : DiscoveryProto} {history : List (Event ι)} {i : ι} {g g' : Shared}
    {p : Call} (own : (provenance proto).own i g history p) (event : Event ι) :
    (provenance proto).own i g' (event :: history) p := by
  intro service endpoints at_p
  obtain ⟨filled, known⟩ := own service endpoints at_p
  exact ⟨filled, fun e member => (known e member).later event⟩

theorem callStep_provenance {setup : Setup} {i : ι} {g g' : Shared} {p q : Call} {a : Move}
    {history : List (Event ι)} {event : Event ι}
    (common : (provenance setup.proto).common g history)
    (own : (provenance setup.proto).own i g history p)
    (taken : callStep setup i g p a = some (g', q, event)) :
    (provenance setup.proto).common g' (event :: history) ∧
      (provenance setup.proto).own i g' (event :: history) q := by
  obtain ⟨founded, sound⟩ := common
  rcases callStep_cases taken with
    ⟨service, endpoints, rfl, rfl, rfl, hit⟩ | ⟨rfl, unfilled, silent⟩ |
    ⟨service, list, endpoints, rfl, rfl, rfl, found⟩ | ⟨service, endpoints, at_p, rfl, rfl, rfl⟩
  · obtain ⟨cached, there, rfl, filled, -⟩ := cachedEndpoints_hit hit
    have known : ∀ e ∈ cached.endpoints, Known setup.proto history service e := by
      have held := founded service
      rw [there] at held
      exact held
    exact ⟨⟨founded.later _, ⟨filled, known⟩, sound⟩, by rintro _ _ ⟨⟩⟩
  · exact ⟨⟨founded.later _, sound.quietly silent⟩,
      fun service endpoints at_q => absurd at_q (unfilled service endpoints)⟩
  · refine ⟨⟨founded.later _, sound⟩, ?_⟩
    rintro _ _ ⟨⟩
    exact discover_known found
  · obtain ⟨filled, known⟩ := own service endpoints at_p
    exact ⟨⟨founded.write fun e member => (known e member).later _, ⟨filled, known⟩, sound⟩,
      by rintro _ _ ⟨⟩⟩

theorem outsideStep_provenance {setup : Setup} {g g' : Shared} {b : Outside}
    {history : List (Event ι)} {event : Event ι}
    (common : (provenance setup.proto).common g history)
    (taken : outsideStep setup g b = some (g', event)) :
    (provenance setup.proto).common g' (event :: history) := by
  obtain ⟨founded, sound⟩ := common
  cases b with
  | deliver service message =>
    cases taken
    exact ⟨founded.write (message_known (founded service)), sound⟩
  | tick nanos =>
    cases taken
    exact ⟨founded.later _, sound⟩

theorem provenance_holds [DecidableEq ι] {setup : Setup} {as : List (Action ι)} {s : World ι}
    (ends : run (step setup) (start ι) as = some s) : (provenance setup.proto).Holds s := by
  apply run_preserves (step setup) _ _ as (start ι) s _ ends
  · intro s a t held taken
    apply Interleaving.outline_preserved (provenance setup.proto) (fun _ _ => True) _ _ _
      s a t held trivial taken
    · intro s i a g q event held _ took
      exact callStep_provenance held.1 (held.2 i) took
    · intro s i a g q event j held _ took _
      exact own_later (held.2 j) event
    · intro s b g event held _ took
      exact ⟨outsideStep_provenance held.1 took, fun j => own_later (held.2 j) event⟩
  · refine ⟨⟨fun service e member => ?_, trivial⟩, fun i => by rintro _ _ ⟨⟩⟩
    cases member

theorem Sound.tail {proto : DiscoveryProto} {history : List (Event ι)} {event : Event ι}
    (sound : Sound proto (event :: history)) : Sound proto history := by
  cases event with
  | answered i serviceName result =>
    cases result with
    | ok endpoints => exact sound.2
    | error _ => exact sound
  | _ => exact sound

theorem Sound.answer {proto : DiscoveryProto} {later earlier : List (Event ι)} {i : ι}
    {serviceName : String} {endpoints : List ResolvedEndpoint}
    (sound : Sound proto (later ++ .answered i serviceName (.ok endpoints) :: earlier)) :
    endpoints ≠ [] ∧ ∀ e ∈ endpoints, Known proto earlier serviceName e := by
  induction later with
  | nil => exact sound.1
  | cons event rest ih => exact ih sound.tail

/-! ## What is dialled -/

omit [SdkworkUtils] in
theorem candidates_subset {endpoints : List ResolvedEndpoint} {e : ResolvedEndpoint}
    (member : e ∈ candidates endpoints) : e ∈ endpoints := by
  unfold candidates at member
  split at member
  · exact member
  · exact List.mem_of_mem_filter member

omit [SdkworkUtils] in
theorem pickEndpoint_some {endpoints : List ResolvedEndpoint} (given : endpoints ≠ [])
    (algorithm : LoadBalanceAlgorithm) (cursor : RoundRobinCursor) :
    ∃ e ∈ endpoints, ∃ next, pickEndpoint endpoints algorithm cursor = (some e, next) := by
  have left := candidates_nonempty given
  have found : (pickEndpoint endpoints algorithm cursor).1.isSome = true := by
    rw [pickEndpoint, if_neg (by simpa using given)]
    cases algorithm with
    | pickFirst => simpa using left
    | roundRobin => simpa using Nat.mod_lt _ (List.length_pos_iff.mpr left)
    | weighted =>
      have last : (candidates endpoints).getLast?.isSome = true := by simpa using left
      simp only [pickWeighted]
      split
      · simpa using left
      · simp [last]
  obtain ⟨e, picked⟩ := Option.isSome_iff_exists.mp found
  have whole : pickEndpoint endpoints algorithm cursor = (some e, _) := Prod.ext picked rfl
  exact ⟨e, candidates_subset (pickEndpoint_mem whole), _, whole⟩

theorem resolveAndConnect_dials {resolver : NameResolver} {serviceName : String}
    {endpoints : List ResolvedEndpoint} (resolved : resolver serviceName = .ok endpoints)
    (given : endpoints ≠ []) (build : Build) (tonic : Transport)
    (algorithm : LoadBalanceAlgorithm) (cursor : RoundRobinCursor) (config : GrpcChannelConfig) :
    ∃ e ∈ endpoints,
      (resolveAndConnect build tonic resolver serviceName algorithm cursor config).1 =
        connectGrpcChannelWithConfig build tonic e.endpoint config := by
  obtain ⟨e, member, next, picked⟩ := pickEndpoint_some given algorithm cursor
  exact ⟨e, member, by rw [resolveAndConnect, resolved]; simp only [picked]⟩

/-- Whatever the callers, the watch sessions and the control plane do, in any order and for
any services, an answer with endpoints has at least one, and each of them is the endpoint of
a Serving or Degraded record that had come in for the very service asked for. Behind a
composite resolver with a fallback of its own, the answer is never an error, the fallback is
used exactly where the watch cache and discovery both failed, and the channel is always
dialled to an endpoint of that answer. -/
theorem resolved_endpoints_offered [DecidableEq ι] (setup : Setup) (as : List (Action ι))
    (s : World ι) (ends : run (step setup) (start ι) as = some s)
    (later earlier : List (Event ι)) (i : ι) (serviceName : String)
    (primary : RpcFrameworkResult (List ResolvedEndpoint))
    (told : s.history = later ++ .answered i serviceName primary :: earlier)
    (fallback : StaticNameResolver) (standby : fallback.endpoints ≠ []) :
    (∀ endpoints, primary = .ok endpoints →
      endpoints ≠ [] ∧ ∀ e ∈ endpoints, Known setup.proto earlier serviceName e) ∧
    compositeResolve fallback serviceName primary =
      .ok (primary.toOption.getD fallback.endpoints) ∧
    ∀ build tonic algorithm cursor config, ∃ e,
      e ∈ primary.toOption.getD fallback.endpoints ∧
      (resolveAndConnect build tonic (fun name => compositeResolve fallback name primary)
        serviceName algorithm cursor config).1 =
        connectGrpcChannelWithConfig build tonic e.endpoint config := by
  have sound := (provenance_holds ends).1.2
  rw [told] at sound
  cases primary with
  | error error =>
    refine ⟨by simp, rfl, fun build tonic algorithm cursor config => ?_⟩
    exact resolveAndConnect_dials rfl standby build tonic algorithm cursor config
  | ok endpoints =>
    obtain ⟨filled, known⟩ := sound.answer
    have passed : compositeResolve fallback serviceName (.ok endpoints) = .ok endpoints := by
      rw [compositeResolve, if_pos (by simpa using filled)]
    refine ⟨by rintro _ ⟨⟩; exact ⟨filled, known⟩, passed, ?_⟩
    intro build tonic algorithm cursor config
    exact resolveAndConnect_dials passed filled build tonic algorithm cursor config

end

attribute [local instance] languageUtils

def shortCache : Setup := ⟨plainProto, .fromSecs 1⟩

/- One caller discovers, a message of another service comes in meanwhile, and a second
caller is answered from the cache. -/
def twoCallers : List (Action Bool) :=
  [.thread false (.resolve "orders"),
    .environment (.deliver "bills" ⟨some 5, 1, some (serves "b:1" 7)⟩),
    .thread false (.reply (.instances [serves "a:1" 3])), .thread false .fill,
    .thread true (.resolve "orders")]

theorem resolved_endpoints_two_callers :
    ∃ s earlier, run (step shortCache) (start Bool) twoCallers = some s ∧
      s.history = .answered true "orders" (.ok [⟨"a:1", 3, true⟩]) :: earlier ∧
      ∀ e ∈ [(⟨"a:1", 3, true⟩ : ResolvedEndpoint)], Known plainProto earlier "orders" e :=
  ⟨_, _, rfl, rfl,
    ((resolved_endpoints_offered shortCache twoCallers _ rfl [] _ true "orders" _ rfl
      (.single "http://127.0.0.1:50051") (by decide)).1 _ rfl).2⟩

end SdkworkRpc.Client.Stack
