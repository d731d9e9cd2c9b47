import SdkworkRpc.Client.WatchAgreement
import SdkworkRpc.Library.Interleaving
import SdkworkRpc.Library.Log

/-! Resolving while the watch session runs. A `resolve` that misses the cache releases
it, waits for a discover response and then overwrites the entry with it; meanwhile the
session applies the messages of the stream to the same entry. -/
namespace SdkworkRpc.Client.Racing

open SdkworkRpc.Core Run Machine SdkworkUtils

/- The registry and the messages on their way from it, oldest first; the entry of the
service in the cache; the clock. -/
structure Shared where
  revision : Nat
  registry : Registry
  inFlight : List (Nat × WatchMessage)
  entry : Option CachedEndpoints
  clock : Nat

/- Where a `resolve` call stands. A response carries the revision it was computed at. -/
inductive Call where
  | idle (answer : Option (RpcFrameworkResult (List ResolvedEndpoint)))
  | waiting
  | responded (revision : Nat) (result : RpcFrameworkResult (List ResolvedEndpoint))

inductive Move where
  | resolve
  | respond
  | fail (error : RpcFrameworkError)
  | arrive

inductive Outside where
  | mutate (m : Mutation) (skipped : Nat)
  | deliver
  | heartbeat (message : WatchMessage)
  | tick (nanos : Nat)

inductive Event (ι : Type*) where
  | quiet
  | applied (revision : Nat) (change : Change)
  | arrived (revision : Nat) (endpoints : List ResolvedEndpoint)
  | answered (caller : ι) (endpoints : List ResolvedEndpoint)

structure Setup where
  server : RegistryServer
  serviceName : String
  cacheTtl : Duration

section

variable {ι : Type*}

def callStep [SdkworkUtils] (setup : Setup) (i : ι) (g : Shared) :
    Call → Move → Option (Shared × Call × Event ι)
  | .idle _, .resolve =>
    match cachedEndpoints setup.cacheTtl g.clock g.entry with
    | some endpoints => some (g, .idle (some (.ok endpoints)), .answered i endpoints)
    | none =>
      if isBlank (some setup.serviceName) then
        some (g, .idle (some (.error (.validation "service_name is required"))), .quiet)
      else some (g, .waiting, .quiet)
  | .waiting, .respond =>
    some (g, .responded g.revision (discoverEndpoints setup.server.toDiscoveryProto
      setup.serviceName g.registry.instances), .quiet)
  | .waiting, .fail error => some (g, .idle (some (.error error)), .quiet)
  | .responded revision (.ok endpoints), .arrive =>
    some ({ g with entry := some ⟨endpoints, g.clock⟩ }, .idle (some (.ok endpoints)),
      .arrived revision endpoints)
  | .responded _ (.error error), .arrive => some (g, .idle (some (.error error)), .quiet)
  | _, _ => none

/- Revisions grow with every mutation, and may skip those of other services. -/
def outsideStep [SdkworkUtils] (setup : Setup) (g : Shared) :
    Outside → Option (Shared × Event ι)
  | .mutate m skipped =>
    let revision := g.revision + 1 + skipped
    (mutate setup.server revision g.registry m).map fun result =>
      ({ g with revision := revision, registry := result.1,
                inFlight := g.inFlight ++ [(revision, result.2)] }, .quiet)
  | .deliver =>
    match g.inFlight with
    | [] => none
    | (revision, message) :: rest =>
      some ({ g with inFlight := rest,
                     entry := applyMessage setup.server.toDiscoveryProto g.clock message g.entry },
        .applied revision (change setup.server.toDiscoveryProto message))
  | .heartbeat message =>
    if setup.server.toDiscoveryProto.eventType message = .heartbeat then
      some ({ g with
        entry := applyMessage setup.server.toDiscoveryProto g.clock message g.entry }, .quiet)
    else none
  | .tick nanos => some ({ g with clock := g.clock + nanos }, .quiet)

abbrev World (ι : Type*) := Interleaving.State ι Shared Call (Event ι)
abbrev Action (ι : Type*) := Interleaving.Action ι Move Outside

def start (ι : Type*) : World ι := ⟨⟨0, .empty, [], none, 0⟩, fun _ => .idle none, []⟩

def step [SdkworkUtils] [DecidableEq ι] (setup : Setup) : World ι → Action ι → Option (World ι) :=
  Interleaving.System.next ⟨callStep setup, outsideStep setup⟩

/-! ## Removals and what undoes them -/

def Event.removal : Event ι → Option (Nat × String)
  | .applied revision (.remove endpoint) => some (revision, endpoint)
  | _ => none

/-- A later serving event, or a response that knew of the removal and holds the endpoint. -/
def Event.restores (endpoint : String) (revision : Nat) : Event ι → Bool
  | .applied later (.upsert new) => new == endpoint && revision < later
  | .arrived computed endpoints => (names endpoints).contains endpoint && revision ≤ computed
  | _ => false

def removals (history : List (Event ι)) : List (Nat × String) := history.filterMap Event.removal

def restored (removed : Nat × String) (history : List (Event ι)) : Bool :=
  history.any fun e => e.restores removed.2 removed.1

/-- A `resolve` in this state is answered from the cache with no endpoint whose removal
has been applied and not been undone. -/
def RemovalsStand (setup : Setup) (s : World ι) : Prop :=
  ∀ endpoints, cachedEndpoints setup.cacheTtl s.shared.clock s.shared.entry = some endpoints →
    ∀ removed ∈ removals s.history, removed.2 ∈ names endpoints → restored removed s.history = true

/- A response about to be stored holds no endpoint whose removal, at a revision after the
one it was computed at, has been applied and not been undone. -/
def Call.Current (history : List (Event ι)) : Call → Prop
  | .responded revision (.ok endpoints) =>
    ∀ removed ∈ removals history, removed.2 ∈ names endpoints → revision < removed.1 →
      restored removed history = true
  | _ => True

def StoresCurrent (s : World ι) : Action ι → Prop
  | .thread i .arrive => (s.thread i).Current s.history
  | _ => True

instance (history : List (Event ι)) : (call : Call) → Decidable (call.Current history)
  | .responded _ (.ok _) => inferInstanceAs (Decidable (∀ removed ∈ removals history, _))
  | .responded _ (.error _) => isTrue trivial
  | .idle _ => isTrue trivial
  | .waiting => isTrue trivial

instance (s : World ι) : (act : Action ι) → Decidable (StoresCurrent s act)
  | .thread i .arrive => inferInstanceAs (Decidable ((s.thread i).Current s.history))
  | .thread _ .resolve => isTrue trivial
  | .thread _ .respond => isTrue trivial
  | .thread _ (.fail _) => isTrue trivial
  | .environment _ => isTrue trivial

theorem restored_cons {removed : Nat × String} {history : List (Event ι)} (e : Event ι)
    (undone : restored removed history = true) : restored removed (e :: history) = true := by
  unfold restored at undone ⊢
  rw [List.any_cons, undone, Bool.or_true]

/- No endpoint of the entry is removed for good; removals come from messages that were
sent before all those still on their way. -/
structure Ordered (g : Shared) (history : List (Event ι)) : Prop where
  stand : ∀ removed ∈ removals history, removed.2 ∈ entryNames g.entry →
    restored removed history = true
  earlier : ∀ removed ∈ removals history, ∀ sent ∈ g.inFlight, removed.1 < sent.1
  past : ∀ removed ∈ removals history, removed.1 ≤ g.revision
  sorted : g.inFlight.Pairwise fun a b => a.1 < b.1
  sent : ∀ sent ∈ g.inFlight, sent.1 ≤ g.revision

theorem removals_quiet {e : Event ι} {history : List (Event ι)} (none' : e.removal = none) :
    removals (e :: history) = removals history := by
  unfold removals
  rw [List.filterMap_cons_none none']

/-- A step that removes nothing and sends nothing keeps the order, when every endpoint
that is new in the entry has its removals undone. -/
theorem ordered_frame {g c : Shared} {history : List (Event ι)} {e : Event ι}
    (ordered : Ordered g history) (none' : e.removal = none)
    (queue : c.inFlight.Sublist g.inFlight) (revision : c.revision = g.revision)
    (fresh : ∀ removed ∈ removals history, removed.2 ∈ entryNames c.entry →
      removed.2 ∈ entryNames g.entry ∨ restored removed (e :: history) = true) :
    Ordered c (e :: history) := by
  constructor
  · rw [removals_quiet none']
    intro removed member listed
    rcases fresh removed member listed with before | undone
    · exact restored_cons e (ordered.stand removed member before)
    · exact undone
  · rw [removals_quiet none']
    intro removed member sent waiting
    exact ordered.earlier removed member sent (queue.subset waiting)
  · rw [removals_quiet none', revision]
    exact ordered.past
  · exact ordered.sorted.sublist queue
  · rw [revision]
    intro sent waiting
    exact ordered.sent sent (queue.subset waiting)

theorem ordered_mutate {g : Shared} {history : List (Event ι)} (ordered : Ordered g history)
    (r : Registry) (message : WatchMessage) {revision : Nat} (grows : g.revision < revision) :
    Ordered { g with revision := revision, registry := r,
                     inFlight := g.inFlight ++ [(revision, message)] } (.quiet :: history) := by
  obtain ⟨stand, earlier, past, sorted, sent⟩ := ordered
  have all : removals (Event.quiet :: history) = removals history := rfl
  constructor
  · rw [all]
    intro removed member listed
    exact restored_cons _ (stand removed member listed)
  · rw [all]
    intro removed member later waiting
    rcases List.mem_append.mp waiting with waiting | new
    · exact earlier removed member later waiting
    · cases List.mem_singleton.mp new
      exact Nat.lt_of_le_of_lt (past removed member) grows
  · rw [all]
    intro removed member
    exact Nat.le_of_lt (Nat.lt_of_le_of_lt (past removed member) grows)
  · exact Log.append_sorted sorted sent grows
  · exact Log.append_bounded sent grows

theorem outdated_call {call : Call} {history : List (Event ι)} (outdated : ¬ call.Current history) :
    ∃ revision endpoints removed, call = .responded revision (.ok endpoints) ∧
      removed ∈ removals history ∧ removed.2 ∈ names endpoints ∧ revision < removed.1 ∧
      restored removed history = false := by
  unfold Call.Current at outdated
  split at outdated
  · rename_i revision endpoints
    push Not at outdated
    obtain ⟨removed, member, listed, old, standing⟩ := outdated
    exact ⟨revision, endpoints, removed, rfl, member, listed, old, by simpa using standing⟩
  · exact absurd trivial outdated

variable [SdkworkUtils]

theorem callStep_cases {setup : Setup} {i : ι} {g c : Shared} {l k : Call} {a : Move}
    {e : Event ι} (taken : callStep setup i g l a = some (c, k, e)) :
    (c = g ∧ e.removal = none) ∨
    ∃ revision endpoints, l = .responded revision (.ok endpoints) ∧ a = .arrive ∧
      c = { g with entry := some ⟨endpoints, g.clock⟩ } ∧ e = .arrived revision endpoints := by
  unfold callStep at taken
  split at taken
  · split at taken
    · cases Option.some.inj taken
      exact .inl ⟨rfl, rfl⟩
    · split at taken
      · cases Option.some.inj taken
        exact .inl ⟨rfl, rfl⟩
      · cases Option.some.inj taken
        exact .inl ⟨rfl, rfl⟩
  · cases Option.some.inj taken
    exact .inl ⟨rfl, rfl⟩
  · cases Option.some.inj taken
    exact .inl ⟨rfl, rfl⟩
  · rename_i revision endpoints
    cases Option.some.inj taken
    exact .inr ⟨revision, endpoints, rfl, rfl, rfl, rfl⟩
  · cases Option.some.inj taken
    exact .inl ⟨rfl, rfl⟩
  · cases taken

theorem ordered_call {setup : Setup} {i : ι} {g c : Shared} {history : List (Event ι)}
    {l k : Call} {a : Move} {e : Event ι} (ordered : Ordered g history)
    (current : a = .arrive → l.Current history)
    (taken : callStep setup i g l a = some (c, k, e)) : Ordered c (e :: history) := by
  rcases callStep_cases taken with ⟨rfl, none'⟩ | ⟨revision, endpoints, rfl, rfl, rfl, rfl⟩
  · exact ordered_frame ordered none' (.refl _) rfl fun _ _ listed => .inl listed
  · refine ordered_frame ordered rfl (.refl _) rfl fun removed member listed => .inr ?_
    have held : removed.2 ∈ names endpoints := listed
    -- A response at or after the removal undoes it; an older one is what `current` rules out.
    by_cases old : revision < removed.1
    · exact restored_cons _ (current rfl removed member held old)
    · have knew : removed.1 ≤ revision := by omega
      simp [restored, Event.restores, held, knew]

def Shared.delivered (setup : Setup) (g : Shared) (message : WatchMessage)
    (rest : List (Nat × WatchMessage)) : Shared :=
  { g with inFlight := rest,
           entry := applyMessage setup.server.toDiscoveryProto g.clock message g.entry }

theorem ordered_deliver {setup : Setup} {g : Shared} {history : List (Event ι)} {revision : Nat}
    {message : WatchMessage} {rest : List (Nat × WatchMessage)} (ordered : Ordered g history)
    (queue : g.inFlight = (revision, message) :: rest) :
    Ordered (g.delivered setup message rest)
      (.applied revision (change setup.server.toDiscoveryProto message) :: history) := by
  have shorter : rest.Sublist g.inFlight := by
    rw [queue]
    exact List.sublist_cons_self _ _
  have first : (revision, message) ∈ g.inFlight := by
    rw [queue]
    exact List.mem_cons_self
  have after := applyMessage_names setup.server.toDiscoveryProto g.clock message g.entry
  cases asked : change setup.server.toDiscoveryProto message with
  | keep =>
    refine ordered_frame ordered rfl shorter rfl fun removed member listed => .inl ?_
    rw [asked] at after
    exact (after _).mp listed
  | upsert endpoint =>
    refine ordered_frame ordered rfl shorter rfl fun removed member listed => ?_
    rw [asked] at after
    rcases (after _).mp listed with new | before
    · have later : removed.1 < revision := ordered.earlier removed member _ first
      right
      simp [restored, Event.restores, new, later]
    · exact .inl before
  | remove endpoint =>
    rw [asked] at after
    obtain ⟨stand, earlier, past, sorted, sent⟩ := ordered
    -- The one new removal is the message's own, and all those behind it are later.
    have all : removals (Event.applied revision (.remove endpoint) :: history) =
        (revision, endpoint) :: removals history := rfl
    constructor
    · rw [all]
      intro removed member listed
      obtain ⟨before, other⟩ := (after _).mp listed
      rcases List.mem_cons.mp member with rfl | member
      · exact absurd rfl other
      · exact restored_cons _ (stand removed member before)
    · rw [all]
      intro removed member later waiting
      rcases List.mem_cons.mp member with rfl | member
      · rw [queue] at sorted
        exact (List.pairwise_cons.mp sorted).1 later waiting
      · exact earlier removed member later (shorter.subset waiting)
    · rw [all]
      intro removed member
      rcases List.mem_cons.mp member with rfl | member
      · exact sent _ first
      · exact past removed member
    · exact sorted.sublist shorter
    · intro later waiting
      exact sent later (shorter.subset waiting)

theorem ordered_outside {setup : Setup} {g c : Shared} {history : List (Event ι)} {b : Outside}
    {e : Event ι} (ordered : Ordered g history) (taken : outsideStep setup g b = some (c, e)) :
    Ordered c (e :: history) := by
  cases b with
  | mutate m skipped =>
    obtain ⟨⟨r, message⟩, _, ended⟩ := Option.map_eq_some_iff.mp taken
    cases ended
    apply ordered_mutate ordered
    omega
  | deliver =>
    simp only [outsideStep] at taken
    split at taken
    · cases taken
    · rename_i queue
      cases Option.some.inj taken
      exact ordered_deliver ordered queue
  | heartbeat message =>
    simp only [outsideStep] at taken
    split at taken
    · rename_i beat
      cases Option.some.inj taken
      refine ordered_frame ordered rfl (.refl _) rfl fun removed member listed => .inl ?_
      have kept : change setup.server.toDiscoveryProto message = .keep := if_pos beat
      have same := (applyMessage_names _ _ _ _ _).mp listed
      rw [kept] at same
      exact same
    · cases taken
  | tick nanos =>
    cases Option.some.inj taken
    exact ordered_frame ordered rfl (.refl _) rfl fun _ _ listed => .inl listed

variable [DecidableEq ι]

theorem ordered_preserved (setup : Setup) (s : World ι) (act : Action ι) (t : World ι)
    (ordered : Ordered s.shared s.history) (current : StoresCurrent s act)
    (taken : step setup s act = some t) : Ordered t.shared t.history := by
  cases act with
  | thread i a =>
    obtain ⟨c, k, e, hs, rfl⟩ := Interleaving.next_thread taken
    apply ordered_call ordered _ hs
    rintro rfl
    exact current
  | environment b =>
    obtain ⟨c, e, hs, rfl⟩ := Interleaving.next_environment taken
    exact ordered_outside ordered hs

theorem outdated_served (setup : Setup) (s : World ι) (act : Action ι) (t : World ι)
    (outdated : ¬ StoresCurrent s act) (taken : step setup s act = some t) :
    ¬ RemovalsStand setup t := by
  cases act with
  | environment b => exact absurd trivial outdated
  | thread i a =>
    cases a with
    | arrive =>
      obtain ⟨revision, endpoints, removed, phase, member, listed, old, standing⟩ :=
        outdated_call outdated
      obtain ⟨c, k, e, hs, rfl⟩ := Interleaving.next_thread taken
      rw [phase] at hs
      cases Option.some.inj hs
      intro stand
      have filled : endpoints ≠ [] := by
        rintro rfl
        cases listed
      have undone := stand endpoints (cachedEndpoints_fresh _ _ _ filled) removed member listed
      have unaware : ¬ removed.1 ≤ revision := by omega
      simp only [restored, List.any_cons, Event.restores, unaware, decide_false, Bool.and_false,
        Bool.false_or] at undone standing
      rw [standing] at undone
      cases undone
    | _ => exact absurd trivial outdated

/-- In every run, a `resolve` answered from the cache respects every applied removal, in
every state of the run, if and only if no outdated response is ever stored. -/
theorem removals_stand_iff (setup : Setup) (as : List (Action ι)) (s : World ι)
    (ends : run (step setup) (start ι) as = some s) :
    Throughout (step setup) (RemovalsStand setup) (start ι) as ↔
      Along (step setup) StoresCurrent (start ι) as := by
  have initial : Ordered (start ι).shared (start ι).history :=
    ⟨nofun, nofun, nofun, .nil, nofun⟩
  apply throughout_iff_along _ _ _ (fun s => Ordered s.shared s.history) _ _ _ _ _ s initial ends
  · intro s ordered endpoints hit removed member listed
    rw [cachedEndpoints_names hit] at listed
    exact ordered.stand removed member listed
  · exact ordered_preserved setup
  · intro s act t _ outdated taken
    exact outdated_served setup s act t outdated taken

end

attribute [local instance] languageUtils

def sampleSetup : Setup := ⟨sampleServer, "orders", .fromSecs 15⟩

def orderlyRemoval : List (Action Nat) :=
  [.environment (.mutate (.register ⟨"i1", "grpc://a:1", 10, 1⟩) 0),
    .environment (.mutate (.register ⟨"i2", "grpc://b:1", 10, 1⟩) 0), .thread 0 .resolve,
    .environment (.mutate (.deregister "i1") 4), .thread 0 .respond, .environment .deliver,
    .environment .deliver, .environment .deliver, .thread 0 .arrive,
    .environment (.heartbeat ⟨none, 4, none⟩), .thread 1 .resolve]

theorem removals_stand_orderly :
    Throughout (step sampleSetup) (RemovalsStand sampleSetup) (start Nat) orderlyRemoval ∧
    ∃ s, run (step sampleSetup) (start Nat) orderlyRemoval = some s ∧
      removals s.history = [(7, "grpc://a:1")] :=
  ⟨(removals_stand_iff sampleSetup orderlyRemoval _ rfl).mpr (by decide), _, rfl, by decide⟩

/- The response is computed before the deregistration and arrives after its message. -/
def lateResponse : List (Action Nat) :=
  [.environment (.mutate (.register ⟨"i1", "grpc://a:1", 10, 1⟩) 0), .thread 0 .resolve,
    .thread 0 .respond, .environment (.mutate (.deregister "i1") 0), .environment .deliver,
    .environment .deliver, .thread 0 .arrive, .environment (.tick 10000000000),
    .environment (.heartbeat ⟨none, 4, none⟩), .environment (.tick 10000000000),
    .thread 1 .resolve]

/-- Twenty seconds after the removal was applied, the removed endpoint is still served
from the cache: the heartbeat has renewed the entry that the late response stored. -/
theorem late_response_served :
    ∃ s, run (step sampleSetup) (start Nat) lateResponse = some s ∧
      removals s.history = [(2, "grpc://a:1")] ∧
      s.history.head? = some (.answered 1 [⟨"grpc://a:1", 10, true⟩]) ∧
      restored (2, "grpc://a:1") s.history = false ∧ ¬ RemovalsStand sampleSetup s := by
  refine ⟨_, rfl, by decide, by rfl, by decide, fun stand => ?_⟩
  have undone := stand [⟨"grpc://a:1", 10, true⟩] (by decide) (2, "grpc://a:1") (by decide)
    (by decide)
  exact absurd undone (by decide)

end SdkworkRpc.Client.Racing
