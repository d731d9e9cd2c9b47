import SdkworkRpc.Client.WatchCache
import SdkworkRpc.Library.Run

/-! The watch cache over whole runs: which endpoints an answer holds, with which weights,
and how old it may be. A run applies messages and completed discover calls one at a time. -/
namespace SdkworkRpc.Client

open SdkworkRpc.Core Machine SdkworkUtils Run

def firstWeight (endpoint : String) (es : List ResolvedEndpoint) : Option Nat :=
  (es.find? fun e => e.endpoint = endpoint).map (·.weight)

def entryEndpoints : Option CachedEndpoints → List ResolvedEndpoint
  | none => []
  | some cached => cached.endpoints

theorem entryNames_eq (entry : Option CachedEndpoints) :
    entryNames entry = names (entryEndpoints entry) := by
  cases entry <;> rfl

theorem upsertEndpoint_mem {es : List ResolvedEndpoint} {e x : ResolvedEndpoint}
    (member : x ∈ upsertEndpoint es e) : x = e ∨ x ∈ es := by
  induction es with
  | nil => exact .inl (List.mem_singleton.mp member)
  | cons y rest ih =>
    simp only [upsertEndpoint] at member
    split at member
    · rcases List.mem_cons.mp member with same | later
      · exact .inl same
      · exact .inr (List.mem_cons_of_mem y later)
    · rcases List.mem_cons.mp member with same | later
      · exact .inr (same ▸ List.mem_cons_self)
      · exact (ih later).imp_right (List.mem_cons_of_mem y)

theorem upsertEndpoint_firstWeight (es : List ResolvedEndpoint) (e : ResolvedEndpoint)
    (endpoint : String) : firstWeight endpoint (upsertEndpoint es e) =
      if e.endpoint = endpoint then some e.weight else firstWeight endpoint es := by
  unfold firstWeight
  induction es with
  | nil =>
    by_cases same : e.endpoint = endpoint <;> simp [upsertEndpoint, same]
  | cons y rest ih =>
    simp only [upsertEndpoint]
    split
    · rename_i replaced
      by_cases same : e.endpoint = endpoint
      · simp [same]
      · simp [same, replaced]
    · rename_i other
      by_cases here : y.endpoint = endpoint
      · have apart : ¬ e.endpoint = endpoint := fun same => other (here.trans same.symm)
        simp [here, apart]
      · simp only [List.find?_cons, here, decide_false]
        exact ih

theorem filter_firstWeight (es : List ResolvedEndpoint) {old endpoint : String}
    (other : endpoint ≠ old) :
    firstWeight endpoint (es.filter fun e => e.endpoint ≠ old) = firstWeight endpoint es := by
  unfold firstWeight
  rw [List.find?_filter]
  congr 2
  funext e
  by_cases same : e.endpoint = endpoint
  · simp [same, other]
  · simp [same]

theorem upsertEndpoint_count (es : List ResolvedEndpoint) (e : ResolvedEndpoint)
    (endpoint : String) : (names (upsertEndpoint es e)).count endpoint =
      if e.endpoint = endpoint then max 1 ((names es).count endpoint)
      else (names es).count endpoint := by
  unfold names
  induction es with
  | nil => by_cases same : e.endpoint = endpoint <;> simp [upsertEndpoint, same]
  | cons y rest ih =>
    simp only [upsertEndpoint]
    split
    · rename_i replaced
      by_cases same : e.endpoint = endpoint
      · simp only [List.map_cons, replaced, same, List.count_cons_self, if_true]
        omega
      · simp [replaced, same]
    · rename_i other
      simp only [List.map_cons, List.count_cons, ih]
      by_cases same : e.endpoint = endpoint
      · have apart : ¬ y.endpoint = endpoint := fun here => other (here.trans same.symm)
        simp [same, apart]
      · simp [same]

/-- A step as it was applied: a message, or the endpoints of a discover call. -/
inductive CacheStep where
  | message (message : WatchMessage)
  | fill (endpoints : List ResolvedEndpoint)
  deriving DecidableEq

structure Applied where
  time : Nat
  step : CacheStep
  existed : Bool
  deriving DecidableEq

structure WatchedCache where
  entry : Option CachedEndpoints
  clock : Nat
  history : List Applied

def WatchedCache.start : WatchedCache := ⟨none, 0, []⟩

inductive CacheAction where
  | message (wait : Nat) (message : WatchMessage)
  | discovered (wait : Nat) (instances : List ServiceInstance)

section

variable [SdkworkUtils]

/-- A discover call that finds no healthy instance fails and leaves the cache alone. -/
def cacheStep (proto : DiscoveryProto) (serviceName : String) (s : WatchedCache) :
    CacheAction → Option WatchedCache
  | .message wait m =>
    let now := s.clock + wait
    some ⟨applyMessage proto now m s.entry, now, ⟨now, .message m, s.entry.isSome⟩ :: s.history⟩
  | .discovered wait instances =>
    let now := s.clock + wait
    match discoverEndpoints proto serviceName instances with
    | .ok endpoints =>
      some ⟨some ⟨endpoints, now⟩, now, ⟨now, .fill endpoints, s.entry.isSome⟩ :: s.history⟩
    | .error _ => some { s with clock := now }

inductive Concern where
  | upserted (weight : Nat)
  | removed
  | filled (present : Bool)
  deriving DecidableEq, Repr

def upsertWeight (m : WatchMessage) : Nat :=
  match m.serviceInstance with
  | some i => max i.weight 1
  | none => 1

def concern (proto : DiscoveryProto) (endpoint : String) : CacheStep → Option Concern
  | .fill endpoints => some (.filled (decide (endpoint ∈ names endpoints)))
  | .message m =>
    match change proto m with
    | .keep => none
    | .upsert new => if new = endpoint then some (.upserted (upsertWeight m)) else none
    | .remove old => if old = endpoint then some .removed else none

/-- The most recent step that concerns the endpoint, as it concerns it. -/
def latest (proto : DiscoveryProto) (endpoint : String) : List Applied → Option Concern
  | [] => none
  | r :: h => (concern proto endpoint r.step).or (latest proto endpoint h)

def Concern.Puts : Option Concern → Prop
  | some (.upserted _) => True
  | some (.filled present) => present = true
  | _ => False

/-- The steps that renew an entry: a heartbeat when there is one, a serving upsert, a fill. -/
def Renews (proto : DiscoveryProto) (r : Applied) : Prop :=
  match r.step with
  | .fill _ => True
  | .message m => (proto.eventType m = .heartbeat ∧ r.existed = true) ∨
      ∃ endpoint, change proto m = .upsert endpoint

def Offerable (e : ResolvedEndpoint) : Prop :=
  e.healthy = true ∧ isBlank (some e.endpoint) = false ∧ 1 ≤ e.weight

theorem applyMessage_endpoints (proto : DiscoveryProto) (now : Nat) (m : WatchMessage)
    (entry : Option CachedEndpoints) :
    entryEndpoints (applyMessage proto now m entry) =
      match change proto m with
      | .keep => entryEndpoints entry
      | .upsert new => upsertEndpoint (entryEndpoints entry) ⟨new, upsertWeight m, true⟩
      | .remove old => (entryEndpoints entry).filter fun e => e.endpoint ≠ old := by
  have getD : (entry.getD ⟨[], now⟩).endpoints = entryEndpoints entry := by cases entry <;> rfl
  unfold applyMessage change
  split
  · cases entry <;> rfl
  · cases given : m.serviceInstance with
    | none => rfl
    | some i =>
      simp only
      split
      · simp only [getD]
        split
        · rename_i empty
          exact (List.isEmpty_iff.mp empty).symm
        · rfl
      · rename_i serving
        have healthy : isServing proto i.status = true := by
          simp only [Bool.or_eq_true, not_or, Bool.not_eq_true', Bool.not_eq_false] at serving
          exact serving.2
        unfold mapDiscoveredInstance
        cases isBlank (some i.endpoint) with
        | true =>
          simp only [if_true]
          exact getD
        | false =>
          simp only [Bool.false_eq_true, if_false, upsertWeight, given, healthy, ← getD]
          rfl

theorem applyMessage_time (proto : DiscoveryProto) (now : Nat) (m : WatchMessage)
    (entry : Option CachedEndpoints) {cached : CachedEndpoints}
    (left : applyMessage proto now m entry = some cached) (filled : cached.endpoints ≠ []) :
    (cached.updatedAt = now ∧ Renews proto ⟨now, .message m, entry.isSome⟩) ∨
      ∃ before, entry = some before ∧ before.endpoints ≠ [] ∧
        cached.updatedAt = before.updatedAt := by
  unfold applyMessage at left
  split at left
  · rename_i heartbeat
    obtain ⟨before, there, renewed⟩ := Option.map_eq_some_iff.mp left
    subst renewed
    exact .inl ⟨rfl, .inl ⟨heartbeat, by rw [there]; rfl⟩⟩
  · rename_i beats
    -- From here on the message carries an instance, or nothing changes.
    cases given : m.serviceInstance with
    | none =>
      rw [given] at left
      exact .inr ⟨cached, left, filled, rfl⟩
    | some i =>
      simp only [given] at left
      split at left
      · split at left
        · cases left
        · cases Option.some.inj left
          cases entry with
          | none => exact absurd rfl filled
          | some before =>
            refine .inr ⟨before, rfl, fun empty => filled ?_, rfl⟩
            simp only [Option.getD_some, empty, List.filter_nil]
      · rename_i serving
        unfold mapDiscoveredInstance at left
        cases blank : isBlank (some i.endpoint) with
        | true =>
          simp only [blank, if_true] at left
          cases Option.some.inj left
          cases entry with
          | none => exact absurd rfl filled
          | some before => exact .inr ⟨before, rfl, filled, rfl⟩
        | false =>
          simp only [blank, Bool.false_eq_true, if_false] at left
          cases Option.some.inj left
          refine .inl ⟨rfl, .inr ⟨i.endpoint, ?_⟩⟩
          simp only [change, if_neg beats, given, if_neg serving, blank, Bool.false_eq_true,
            if_false]

theorem change_upsert_solid {proto : DiscoveryProto} {m : WatchMessage} {new : String}
    (upserts : change proto m = .upsert new) : isBlank (some new) = false := by
  unfold change at upserts
  split at upserts
  · cases upserts
  · split at upserts
    · cases upserts
    · split at upserts
      · cases upserts
      · split at upserts
        · cases upserts
        · rename_i solid
          cases upserts
          exact Bool.eq_false_iff.mpr solid

omit [SdkworkUtils] in
theorem upsertWeight_pos (m : WatchMessage) : 1 ≤ upsertWeight m := by
  unfold upsertWeight
  split
  · exact Nat.le_max_right ..
  · exact Nat.le_refl _

theorem discoverEndpoints_offerable {proto : DiscoveryProto} {serviceName : String}
    {instances : List ServiceInstance} {endpoints : List ResolvedEndpoint}
    (found : discoverEndpoints proto serviceName instances = .ok endpoints) :
    ∀ e ∈ endpoints, Offerable e := by
  intro e member
  simp only [discoverEndpoints] at found
  split at found
  · cases found
  · cases found
    obtain ⟨mapped, healthy⟩ := List.mem_filter.mp member
    obtain ⟨i, _, here⟩ := List.mem_filterMap.mp mapped
    unfold mapDiscoveredInstance at here
    split at here
    · cases here
    · rename_i solid
      cases Option.some.inj here
      exact ⟨healthy, Bool.eq_false_iff.mpr solid, Nat.le_max_right ..⟩

structure Represents (proto : DiscoveryProto) (s : WatchedCache) : Prop where
  named : ∀ endpoint, endpoint ∈ entryNames s.entry ↔
    Concern.Puts (latest proto endpoint s.history)
  offerable : ∀ e ∈ entryEndpoints s.entry, Offerable e
  weighed : ∀ endpoint weight, latest proto endpoint s.history = some (.upserted weight) →
    firstWeight endpoint (entryEndpoints s.entry) = some weight
  renewed : ∀ cached, s.entry = some cached → cached.endpoints ≠ [] →
    ∃ r ∈ s.history, Renews proto r ∧ r.time = cached.updatedAt ∧ r.time ≤ s.clock

section Steps

variable {proto : DiscoveryProto} {s : WatchedCache}

theorem latest_message (endpoint : String) (r : Applied) (m : WatchMessage) (h : List Applied)
    (applied : r.step = .message m) : latest proto endpoint (r :: h) =
      match change proto m with
      | .keep => latest proto endpoint h
      | .upsert new =>
        if new = endpoint then some (.upserted (upsertWeight m)) else latest proto endpoint h
      | .remove old => if old = endpoint then some .removed else latest proto endpoint h := by
  rw [latest, applied, concern]
  cases change proto m with
  | keep => rfl
  | upsert new =>
    simp only
    split <;> rfl
  | remove old =>
    simp only
    split <;> rfl

theorem named_message (held : Represents proto s) (now : Nat) (m : WatchMessage) (r : Applied)
    (applied : r.step = .message m) (endpoint : String) :
    endpoint ∈ entryNames (applyMessage proto now m s.entry) ↔
      Concern.Puts (latest proto endpoint (r :: s.history)) := by
  rw [applyMessage_names, latest_message endpoint r m s.history applied]
  cases change proto m with
  | keep => exact held.named endpoint
  | upsert new =>
    by_cases same : new = endpoint
    · simp [Change.Gives, same, Concern.Puts]
    · have apart : endpoint ≠ new := fun h => same h.symm
      simp only [Change.Gives, apart, false_or, if_neg same]
      exact held.named endpoint
  | remove old =>
    by_cases same : old = endpoint
    · simp [Change.Gives, same, Concern.Puts]
    · have apart : endpoint ≠ old := fun h => same h.symm
      simp only [Change.Gives, apart, ne_eq, not_false_eq_true, and_true, if_neg same]
      exact held.named endpoint

theorem offerable_message (held : Represents proto s) (now : Nat) (m : WatchMessage) :
    ∀ e ∈ entryEndpoints (applyMessage proto now m s.entry), Offerable e := by
  rw [applyMessage_endpoints]
  cases changed : change proto m with
  | keep => exact held.offerable
  | upsert new =>
    intro e member
    rcases upsertEndpoint_mem member with rfl | there
    · exact ⟨rfl, change_upsert_solid changed, upsertWeight_pos m⟩
    · exact held.offerable e there
  | remove old => exact fun e member => held.offerable e (List.mem_filter.mp member).1

theorem weighed_message (held : Represents proto s) (now : Nat) (m : WatchMessage) (r : Applied)
    (applied : r.step = .message m) (endpoint : String) (weight : Nat)
    (recent : latest proto endpoint (r :: s.history) = some (.upserted weight)) :
    firstWeight endpoint (entryEndpoints (applyMessage proto now m s.entry)) = some weight := by
  rw [latest_message endpoint r m s.history applied] at recent
  rw [applyMessage_endpoints]
  cases changed : change proto m with
  | keep =>
    rw [changed] at recent
    exact held.weighed endpoint weight recent
  | upsert new =>
    simp only [changed] at recent
    simp only [upsertEndpoint_firstWeight]
    split at recent
    · rename_i same
      cases Option.some.inj recent
      rw [if_pos same]
    · rename_i other
      rw [if_neg other]
      exact held.weighed endpoint weight recent
  | remove old =>
    simp only [changed] at recent
    split at recent
    · cases recent
    · rename_i other
      exact (filter_firstWeight _ (fun h => other h.symm)).trans
        (held.weighed endpoint weight recent)

theorem represents_message (held : Represents proto s) (wait : Nat) (m : WatchMessage) :
    Represents proto ⟨applyMessage proto (s.clock + wait) m s.entry, s.clock + wait,
      ⟨s.clock + wait, .message m, s.entry.isSome⟩ :: s.history⟩ := by
  refine ⟨named_message held _ m _ rfl, offerable_message held _ m, weighed_message held _ m _ rfl,
    fun cached left filled => ?_⟩
  rcases applyMessage_time proto _ m s.entry left filled with ⟨now, renews⟩ |
    ⟨before, there, nonempty, kept⟩
  · exact ⟨_, List.mem_cons_self, renews, now.symm, Nat.le_refl _⟩
  · obtain ⟨r, member, renews, time, past⟩ := held.renewed before there nonempty
    exact ⟨r, List.mem_cons_of_mem _ member, renews, time.trans kept.symm,
      Nat.le_add_right_of_le past⟩

theorem represents_fill (proto : DiscoveryProto) (now : Nat) (existed : Bool) (h : List Applied)
    {endpoints : List ResolvedEndpoint} (offerable : ∀ e ∈ endpoints, Offerable e) :
    Represents proto ⟨some ⟨endpoints, now⟩, now, ⟨now, .fill endpoints, existed⟩ :: h⟩ := by
  refine ⟨fun endpoint => ?_, offerable, fun endpoint weight recent => ?_, fun cached left _ => ?_⟩
  · simp [latest, concern, Concern.Puts, entryNames]
  · cases recent
  · cases Option.some.inj left
    exact ⟨_, List.mem_cons_self, trivial, rfl, Nat.le_refl _⟩

theorem represents_step {serviceName : String} {t : WatchedCache} (a : CacheAction)
    (held : Represents proto s) (taken : cacheStep proto serviceName s a = some t) :
    Represents proto t := by
  cases a with
  | message wait m =>
    cases Option.some.inj taken
    exact represents_message held wait m
  | discovered wait instances =>
    simp only [cacheStep] at taken
    split at taken
    · rename_i endpoints found
      cases Option.some.inj taken
      exact represents_fill proto _ _ _ (discoverEndpoints_offerable found)
    · cases Option.some.inj taken
      refine ⟨held.named, held.offerable, held.weighed, fun cached left filled => ?_⟩
      obtain ⟨r, member, renews, time, past⟩ := held.renewed cached left filled
      exact ⟨r, member, renews, time, Nat.le_add_right_of_le past⟩

end Steps

structure FaithfulAnswer (proto : DiscoveryProto) (cacheTtl : Duration) (s : WatchedCache)
    (now : Nat) (answer : List ResolvedEndpoint) : Prop where
  named : ∀ endpoint, endpoint ∈ names answer ↔ Concern.Puts (latest proto endpoint s.history)
  offerable : ∀ e ∈ answer, Offerable e
  weighed : ∀ endpoint weight, latest proto endpoint s.history = some (.upserted weight) →
    firstWeight endpoint answer = some weight
  fresh : ∃ r ∈ s.history, Renews proto r ∧ r.time ≤ now ∧ now ≤ r.time + cacheTtl.nanos

omit [SdkworkUtils] in
theorem cachedEndpoints_hit {cacheTtl : Duration} {now : Nat} {entry : Option CachedEndpoints}
    {answer : List ResolvedEndpoint} (hit : cachedEndpoints cacheTtl now entry = some answer) :
    ∃ cached, entry = some cached ∧ cached.endpoints = answer ∧ answer ≠ [] ∧
      now - cached.updatedAt ≤ cacheTtl.nanos := by
  cases entry with
  | none => cases hit
  | some cached =>
    simp only [cachedEndpoints] at hit
    split at hit
    · cases hit
    · rename_i filled
      split at hit
      · cases hit
      · rename_i young
        cases Option.some.inj hit
        exact ⟨cached, rfl, rfl, fun empty => filled (List.isEmpty_iff.mpr empty),
          Nat.le_of_not_lt young⟩

/-- After any run of messages and discover calls, an answer of the cache is a faithful
account of the latest steps and rests on one no older than the time to live; and no message
makes an endpoint appear a second time. -/
theorem watch_cache_faithful (proto : DiscoveryProto) (serviceName : String) (cacheTtl : Duration)
    (actions : List CacheAction) (s : WatchedCache)
    (ends : run (cacheStep proto serviceName) .start actions = some s) :
    (∀ wait answer, cachedEndpoints cacheTtl (s.clock + wait) s.entry = some answer →
      FaithfulAnswer proto cacheTtl s (s.clock + wait) answer) ∧
    ∀ m now new, change proto m = .upsert new → ∀ endpoint,
      (entryNames (applyMessage proto now m s.entry)).count endpoint =
        if new = endpoint then max 1 ((entryNames s.entry).count endpoint)
        else (entryNames s.entry).count endpoint := by
  have initial : Represents proto .start :=
    ⟨fun _ => ⟨fun member => (by cases member), False.elim⟩, fun e member => (by cases member),
      fun _ _ recent => (by cases recent), fun _ left => (by cases left)⟩
  have held := run_preserves (cacheStep proto serviceName) (Represents proto)
    (fun s a t held taken => represents_step a held taken) actions .start s initial ends
  constructor
  · intro wait answer hit
    obtain ⟨cached, there, same, filled, young⟩ := cachedEndpoints_hit hit
    have contents : entryEndpoints s.entry = answer := by
      rw [there]
      exact same
    obtain ⟨r, member, renews, time, past⟩ := held.renewed cached there (same ▸ filled)
    refine ⟨?_, ?_, ?_, r, member, renews, by omega, by omega⟩
    · rw [← contents, ← entryNames_eq]
      exact held.named
    · rw [← contents]
      exact held.offerable
    · rw [← contents]
      exact held.weighed
  · intro m now new upserts endpoint
    rw [entryNames_eq, entryNames_eq, applyMessage_endpoints, upserts]
    exact upsertEndpoint_count _ _ endpoint

end

attribute [local instance] languageUtils

/- Status 1 is Serving; type 1 is a registration, 2 a deregistration, 3 a heartbeat. -/
def plainProto : DiscoveryProto where
  instanceStatus n := if n = 1 then some .serving else some .other
  watchEventType n :=
    if n = 1 then some .other else if n = 2 then some .instanceDeregistered
    else if n = 3 then some .heartbeat else none

def serves (endpoint : String) (weight : Nat) : ServiceInstance := ⟨"i", endpoint, weight, 1⟩

/- A fill with two endpoints, an upsert of one of them, the other deregistered. -/
def shortWatch : List CacheAction :=
  [.discovered 1 [serves "a:1" 1, serves "b:1" 0], .message 1 ⟨some 5, 1, some (serves "b:1" 7)⟩,
    .message 1 ⟨none, 2, some (serves "a:1" 1)⟩]

theorem watch_cache_faithful_short :
    ∃ s, run (cacheStep plainProto "orders") .start shortWatch = some s ∧
      cachedEndpoints (.fromSecs 1) (s.clock + 5) s.entry = some [⟨"b:1", 7, true⟩] ∧
      FaithfulAnswer plainProto (.fromSecs 1) s (s.clock + 5) [⟨"b:1", 7, true⟩] :=
  ⟨_, rfl, by decide +kernel,
    (watch_cache_faithful plainProto "orders" (.fromSecs 1) shortWatch _ rfl).1 5 _
      (by decide +kernel)⟩

end SdkworkRpc.Client
