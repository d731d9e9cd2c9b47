import SdkworkRpc.Client.Registry

/-! When the cache that follows the watch stream agrees with discovery. -/
namespace SdkworkRpc.Client

open Run SdkworkUtils

variable {α : Type*} {gone kept : α → Prop} {x : α}

/- `gone` is offered by the instance itself before the step, `kept` by the others. -/
theorem remove_agrees_iff :
    (∀ e, (gone e ∨ kept e) ∧ e ≠ x ↔ kept e) ↔ (∀ e, gone e → e = x ∨ kept e) ∧ ¬ kept x := by
  constructor
  · intro agrees
    constructor
    · intro e was
      by_cases same : e = x
      · exact .inl same
      · exact .inr ((agrees e).mp ⟨.inl was, same⟩)
    · intro still
      exact ((agrees x).mpr still).2 rfl
  · rintro ⟨covered, removed⟩ e
    constructor
    · rintro ⟨was | still, other⟩
      · exact (covered e was).resolve_left other
      · exact still
    · intro still
      refine ⟨.inr still, ?_⟩
      rintro rfl
      exact removed still

theorem upsert_agrees_iff :
    (∀ e, e = x ∨ gone e ∨ kept e ↔ x = e ∨ kept e) ↔ ∀ e, gone e → e = x ∨ kept e := by
  constructor
  · intro agrees e was
    exact ((agrees e).mp (.inr (.inl was))).imp_left Eq.symm
  · intro covered e
    constructor
    · rintro (same | was | still)
      · exact .inl same.symm
      · exact (covered e was).imp_left Eq.symm
      · exact .inr still
    · rintro (same | still)
      · exact .inl same.symm
      · exact .inr (.inr still)

theorem keep_agrees_iff (apart : ∀ e, gone e → e ≠ x) :
    (∀ e, gone e ∨ kept e ↔ kept e) ↔ ∀ e, gone e → e = x ∨ kept e := by
  constructor
  · intro agrees e was
    exact .inr ((agrees e).mp (.inl was))
  · intro covered e
    constructor
    · rintro (was | still)
      · exact (covered e was).resolve_left (apart e was)
      · exact still
    · exact .inr

section

variable [SdkworkUtils] {server : RegistryServer} {serviceName : String} {s t : Mirror}

theorem agrees_iff : Agrees server serviceName s ↔
    ∀ endpoint, endpoint ∈ entryNames s.entry ↔
      Offers server.toDiscoveryProto s.registry.instances endpoint := by
  unfold Agrees
  simp only [discoverEndpoints_names]

theorem keepsOffers_iff {m : Mutation} {now : Nat} {record : ServiceInstance}
    (carried : m.record s.registry = some record) :
    KeepsOffers server s (m, now) ↔
      (∀ e, OwnOffer server.toDiscoveryProto s.registry m.instanceId e →
        e = record.endpoint ∨
          Offers server.toDiscoveryProto (s.registry.others m.instanceId) e) ∧
      (removing server m record = true →
        ¬ Offers server.toDiscoveryProto (s.registry.others m.instanceId) record.endpoint) := by
  unfold KeepsOffers
  simp only [carried, Option.mem_def, Option.some.injEq, forall_eq']
  apply and_congr_left'
  constructor
  · rintro covered e ⟨old, found, visible, rfl⟩
    exact covered old found visible
  · intro covered old found visible
    exact covered old.endpoint ⟨old, found, visible, rfl⟩

theorem mutate_offers {m : Mutation} {revision : Nat} {record : ServiceInstance}
    (carried : m.record s.registry = some record) {r : Registry} {message : WatchMessage}
    (mutated : mutate server revision s.registry m = some (r, message)) :
    message = ⟨some revision, m.code server, some record⟩ ∧
    ∀ e, Offers server.toDiscoveryProto r.instances e ↔
      (removing server m record = false ∧ isBlank (some record.endpoint) = false ∧
        record.endpoint = e) ∨
      Offers server.toDiscoveryProto (s.registry.others m.instanceId) e := by
  simp only [mutate, carried, Option.map_some] at mutated
  cases Option.some.inj mutated
  refine ⟨rfl, fun e => ?_⟩
  unfold removing
  cases deregisters : m.deregisters with
  | true => simp [Registry.erase]
  | false =>
    simp only [Bool.false_eq_true, if_false, put_offers, Mutation.record_id carried, offered]
    simp [and_assoc]

theorem step_agrees_iff (agrees : Agrees server serviceName s) {action : Mutation × Nat}
    (taken : Mirror.step server s action = some t) :
    Agrees server serviceName t ↔ KeepsOffers server s action := by
  obtain ⟨m, now⟩ := action
  obtain ⟨⟨r, message⟩, mutated, rfl⟩ := Option.map_eq_some_iff.mp taken
  obtain ⟨record, carried, _⟩ := Option.map_eq_some_iff.mp mutated
  obtain ⟨rfl, offers⟩ := mutate_offers carried mutated
  rw [agrees_iff] at agrees ⊢
  rw [keepsOffers_iff carried]
  simp only [applyMessage_names, message_change, offers]
  have before : ∀ e, e ∈ entryNames s.entry ↔
      OwnOffer server.toDiscoveryProto s.registry m.instanceId e ∨
        Offers server.toDiscoveryProto (s.registry.others m.instanceId) e := fun e =>
    (agrees e).trans (offers_split _ _ _ _)
  cases removal : removing server m record with
  | true =>
    simp only [if_true, Change.Gives, before, Bool.true_eq_false, false_and, false_or,
      forall_const]
    exact remove_agrees_iff
  | false =>
    cases blank : isBlank (some record.endpoint) with
    | true =>
      simp only [Bool.false_eq_true, if_false, if_true, Change.Gives, before, Bool.true_eq_false,
        false_and, and_false, false_or, false_imp_iff, and_true]
      apply keep_agrees_iff
      rintro e ⟨old, _, visible, rfl⟩ same
      rw [offered, same, blank] at visible
      simp at visible
    | false =>
      simp only [Bool.false_eq_true, if_false, Change.Gives, before, true_and, false_imp_iff,
        and_true]
      exact upsert_agrees_iff

/-- The cache agrees with discovery after every step of a run if and only if every step
keeps the offers of the other instances and moves no offered endpoint. -/
theorem watch_cache_agrees_iff (server : RegistryServer) (serviceName : String)
    (as : List (Mutation × Nat)) (s : Mirror)
    (ends : run (Mirror.step server) .start as = some s) :
    Throughout (Mirror.step server) (Agrees server serviceName) .start as ↔
      Along (Mirror.step server) (KeepsOffers server) .start as := by
  have initial : Agrees server serviceName .start := fun _ => Iff.rfl
  apply throughout_iff_along _ _ _ (Agrees server serviceName) _ _ _ _ _ s initial ends
  · exact fun _ agrees => agrees
  · intro s a t agrees keeps taken
    exact (step_agrees_iff agrees taken).mpr keeps
  · intro s a t agrees moves taken
    exact mt (step_agrees_iff agrees taken).mp moves

end

attribute [local instance] languageUtils

/- A server that numbers Serving 1 and Degraded 2, and its events 1 to 4. -/
def sampleServer : RegistryServer where
  instanceStatus n :=
    if n = 1 then some .serving else if n = 2 then some .degraded
    else if n = 3 then some .other else none
  watchEventType n :=
    if n = 1 ∨ n = 2 then some .other else if n = 3 then some .instanceDeregistered
    else if n = 4 then some .heartbeat else none
  registeredCode := 1
  updatedCode := 2
  deregisteredCode := 3
  registered := rfl
  updated := rfl
  deregistered := rfl

def orderlyMutations : List (Mutation × Nat) :=
  [(.register ⟨"i1", "grpc://a:1", 10, 1⟩, 1), (.register ⟨"i2", "grpc://b:1", 0, 1⟩, 2),
    (.updateStatus "i1" 2, 3), (.deregister "i1", 4)]

theorem watch_cache_agrees_orderly :
    Throughout (Mirror.step sampleServer) (Agrees sampleServer "orders") .start orderlyMutations ∧
    ∃ s, run (Mirror.step sampleServer) .start orderlyMutations = some s ∧
      entryNames s.entry = ["grpc://b:1"] :=
  ⟨(watch_cache_agrees_iff sampleServer "orders" orderlyMutations _ rfl).mpr (by decide),
    _, rfl, by decide⟩

/-- The same instance registered again under a new endpoint. -/
def movedInstance : List (Mutation × Nat) :=
  [(.register ⟨"i1", "grpc://a:1", 10, 1⟩, 1), (.register ⟨"i1", "grpc://a:2", 10, 1⟩, 2)]

theorem watch_cache_keeps_moved_endpoint :
    ∃ s, run (Mirror.step sampleServer) .start movedInstance = some s ∧
      entryNames s.entry = ["grpc://a:1", "grpc://a:2"] ∧
      resultNames (discoverEndpoints sampleServer.toDiscoveryProto "orders" s.registry.instances) =
        ["grpc://a:2"] ∧
      ¬ Agrees sampleServer "orders" s := by
  refine ⟨_, rfl, by decide, by decide, fun agrees => ?_⟩
  have stale := (agrees "grpc://a:1").mp (by decide)
  exact absurd stale (by decide)

end SdkworkRpc.Client
