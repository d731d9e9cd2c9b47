import SdkworkRpc.Client.Discovery

/-! The watch cache: what one message of a watch session does to the entry of its
service, and what `resolve` reads from it. Every access of the source is under the name
of one service, so one entry is modelled; an absent entry is `none`. -/
namespace SdkworkRpc.Client

open SdkworkRpc.Core Machine SdkworkUtils

structure CachedEndpoints where
  endpoints : List ResolvedEndpoint
  updatedAt : Nat
  deriving DecidableEq

/- The revision is that of the response metadata, when there is any. -/
structure WatchMessage where
  revision : Option Nat
  eventType : Int
  serviceInstance : Option ServiceInstance
  deriving DecidableEq

def upsertEndpoint : List ResolvedEndpoint → ResolvedEndpoint → List ResolvedEndpoint
  | [], endpoint => [endpoint]
  | candidate :: rest, endpoint =>
    if candidate.endpoint = endpoint.endpoint then endpoint :: rest
    else candidate :: upsertEndpoint rest endpoint

/-- The cursor after a message: `fetch_max` with its revision, unless that is 0 or missing. -/
def advanceRevision (lastRevision : Nat) (message : WatchMessage) : Nat :=
  match message.revision with
  | some revision => if revision > 0 then max lastRevision revision else lastRevision
  | none => lastRevision

def DiscoveryProto.eventType (proto : DiscoveryProto) (message : WatchMessage) : WatchEventType :=
  (proto.watchEventType message.eventType).getD .unspecified

def cachedEndpoints (cacheTtl : Duration) (now : Nat) :
    Option CachedEndpoints → Option (List ResolvedEndpoint)
  | none => none
  | some cached =>
    if cached.endpoints.isEmpty then none
    else if now - cached.updatedAt > cacheTtl.nanos then none
    else some cached.endpoints

def entryNames : Option CachedEndpoints → List String
  | none => []
  | some cached => names cached.endpoints

theorem upsertEndpoint_names (es : List ResolvedEndpoint) (e : ResolvedEndpoint) (name : String) :
    name ∈ names (upsertEndpoint es e) ↔ name = e.endpoint ∨ name ∈ names es := by
  induction es with
  | nil => simp [upsertEndpoint, names]
  | cons x rest ih =>
    simp only [upsertEndpoint]
    split
    · rename_i same
      simp [names, same]
    · simp only [names, List.map_cons, List.mem_cons] at ih ⊢
      rw [ih]
      exact or_left_comm

theorem filter_names (es : List ResolvedEndpoint) (old name : String) :
    name ∈ names (es.filter fun e => e.endpoint ≠ old) ↔ name ∈ names es ∧ name ≠ old := by
  unfold names
  simp only [List.mem_map, List.mem_filter, decide_eq_true_eq]
  constructor
  · rintro ⟨e, ⟨member, other⟩, rfl⟩
    exact ⟨⟨e, member, rfl⟩, other⟩
  · rintro ⟨⟨e, member, rfl⟩, other⟩
    exact ⟨e, ⟨member, other⟩, rfl⟩

theorem getD_names (entry : Option CachedEndpoints) (now : Nat) :
    names (entry.getD ⟨[], now⟩).endpoints = entryNames entry := by
  cases entry <;> rfl

theorem cachedEndpoints_names {cacheTtl : Duration} {now : Nat} {entry : Option CachedEndpoints}
    {endpoints : List ResolvedEndpoint}
    (hit : cachedEndpoints cacheTtl now entry = some endpoints) :
    names endpoints = entryNames entry := by
  cases entry with
  | none => cases hit
  | some cached =>
    simp only [cachedEndpoints] at hit
    split at hit
    · cases hit
    · split at hit
      · cases hit
      · cases Option.some.inj hit
        rfl

theorem cachedEndpoints_fresh (cacheTtl : Duration) (now : Nat) (endpoints : List ResolvedEndpoint)
    (filled : endpoints ≠ []) :
    cachedEndpoints cacheTtl now (some ⟨endpoints, now⟩) = some endpoints := by
  simp [cachedEndpoints, filled]

variable [SdkworkUtils]

/- The body of the loop of `run_watch_session` after the cursor, at time `now`. -/
def applyMessage (proto : DiscoveryProto) (now : Nat) (message : WatchMessage)
    (entry : Option CachedEndpoints) : Option CachedEndpoints :=
  if proto.eventType message = .heartbeat then
    entry.map fun cached => { cached with updatedAt := now }
  else match message.serviceInstance with
    | none => entry
    | some i =>
      let cached := entry.getD ⟨[], now⟩
      if proto.eventType message = .instanceDeregistered || !isServing proto i.status then
        let kept := cached.endpoints.filter fun existing => existing.endpoint ≠ i.endpoint
        if kept.isEmpty then none else some { cached with endpoints := kept }
      else match mapDiscoveredInstance proto i with
        | some endpoint => some ⟨upsertEndpoint cached.endpoints endpoint, now⟩
        | none => some cached

/- What a message asks of the entry, whatever the entry holds. -/
inductive Change where
  | keep
  | upsert (endpoint : String)
  | remove (endpoint : String)
  deriving DecidableEq, Repr

def change (proto : DiscoveryProto) (message : WatchMessage) : Change :=
  if proto.eventType message = .heartbeat then .keep
  else match message.serviceInstance with
    | none => .keep
    | some i =>
      if proto.eventType message = .instanceDeregistered || !isServing proto i.status then
        .remove i.endpoint
      else if isBlank (some i.endpoint) then .keep else .upsert i.endpoint

def Change.Gives (before : List String) : Change → String → Prop
  | .keep, endpoint => endpoint ∈ before
  | .upsert new, endpoint => endpoint = new ∨ endpoint ∈ before
  | .remove old, endpoint => endpoint ∈ before ∧ endpoint ≠ old

theorem applyMessage_names (proto : DiscoveryProto) (now : Nat) (message : WatchMessage)
    (entry : Option CachedEndpoints) (name : String) :
    name ∈ entryNames (applyMessage proto now message entry) ↔
      (change proto message).Gives (entryNames entry) name := by
  unfold applyMessage change
  split
  · cases entry <;> exact Iff.rfl
  · cases message.serviceInstance with
    | none => exact Iff.rfl
    | some i =>
      simp only
      split
      · rw [Change.Gives, ← getD_names entry now, ← filter_names]
        split
        · rename_i empty
          rw [List.isEmpty_iff.mp empty]
          exact Iff.rfl
        · exact Iff.rfl
      · unfold mapDiscoveredInstance
        cases isBlank (some i.endpoint) with
        | true =>
          simp only [if_true, Change.Gives, ← getD_names entry now]
          exact Iff.rfl
        | false =>
          simp only [Bool.false_eq_true, if_false, Change.Gives, ← getD_names entry now]
          exact upsertEndpoint_names _ _ name

end SdkworkRpc.Client
