import SdkworkRpc.Discovery.Lifecycle
import SdkworkRpc.Library.Interleaving

/-! Any number of processes that register instances. The read and the conditional write
of one registration are two messages; between them others may write. -/
namespace SdkworkRpc.Discovery

open Run Interleaving

inductive Phase where
  | idle (outcome : Option (Outcome DiscoveryInstanceHandle))
  | connecting
  | retrieving
  | answered (reply : RetrieveReply)
  | registering (expectedRevision : Option Nat)

inductive Move where
  | begin
  | connect
  | refuse (error : String)
  | retrieve
  | retrieveFails (status : String)
  | proceed
  | register (skipped : Nat) (reply : String)
  | registerFails (status : String)

inductive Event (ι : Type*) where
  | quiet
  | retrieved (process : ι)
  | wrote (process : ι) (key : InstanceKey)
  deriving DecidableEq

variable {ι : Type*}

/- The reply to a registration is the lease of a success or the status of a refusal. -/
def processStep [SdkworkUtils] (configs : ι → DiscoveryInstanceConfig) (i : ι)
    (store : Store) : Phase → Move → Option (Store × Phase × Event ι)
  | .idle _, .begin =>
    match (configs i).validate with
    | .ok _ => some (store, .connecting, .quiet)
    | .error error => some (store, .idle (some (.error error)), .quiet)
  | .connecting, .refuse error => some (store, .idle (some (.error (.transport error))), .quiet)
  | .connecting, .connect =>
    match resolveExpectedRevision (configs i) with
    | .known expected => some (store, .registering expected, .quiet)
    | .retrieve => some (store, .retrieving, .quiet)
  | .retrieving, .retrieve =>
    some (store, .answered (store.retrieve (configs i).key), .retrieved i)
  | .retrieving, .retrieveFails status => some (store, .answered (.failed status), .quiet)
  | .answered reply, .proceed =>
    match retrievedRevision reply with
    | .ok expected => some (store, .registering expected, .quiet)
    | .error error => some (store, .idle (some (.error error)), .quiet)
  | .registering expected, .register skipped reply =>
    match store.register ((configs i).request expected) skipped with
    | some written =>
      some (written, .idle (some ((configs i).handle reply)), .wrote i (configs i).key)
    | none => some (store, .idle (some (.error (.rpc reply))), .quiet)
  | .registering _, .registerFails status =>
    some (store, .idle (some (.error (.rpc status))), .quiet)
  | _, _ => none

abbrev World (ι : Type*) := Interleaving.State ι Store Phase (Event ι)
abbrev Action (ι : Type*) := Interleaving.Action ι Move Empty

def start (ι : Type*) : World ι := ⟨.empty, fun _ => .idle none, []⟩

def step [SdkworkUtils] [DecidableEq ι] (configs : ι → DiscoveryInstanceConfig) :
    World ι → Action ι → Option (World ι) :=
  Interleaving.System.next ⟨processStep configs, nofun⟩

def writtenSince [DecidableEq ι] (i : ι) (key : InstanceKey) : List (Event ι) → Bool
  | [] => false
  | .retrieved j :: h => if j = i then false else writtenSince i key h
  | .wrote _ k :: h => if k = key then true else writtenSince i key h
  | .quiet :: h => writtenSince i key h

/-- No write went over a record that was written since the writer's own retrieve. -/
def NoLostUpdate [DecidableEq ι] : List (Event ι) → Prop
  | [] => True
  | .wrote i key :: h => writtenSince i key h = false ∧ NoLostUpdate h
  | _ :: h => NoLostUpdate h

def Phase.Unopposed (store : Store) (key : InstanceKey) : Phase → Prop
  | .registering none => store.cells key = none
  | _ => True

instance (store : Store) (key : InstanceKey) :
    (phase : Phase) → Decidable (phase.Unopposed store key)
  | .registering none => inferInstanceAs (Decidable (store.cells key = none))
  | .registering (some _) => isTrue trivial
  | .idle _ => isTrue trivial
  | .connecting => isTrue trivial
  | .retrieving => isTrue trivial
  | .answered _ => isTrue trivial

def RegistersAbsent (configs : ι → DiscoveryInstanceConfig) (s : World ι) : Action ι → Prop
  | .thread i (.register _ _) => (s.thread i).Unopposed s.shared (configs i).key
  | _ => True

instance (configs : ι → DiscoveryInstanceConfig) (s : World ι) :
    (act : Action ι) → Decidable (RegistersAbsent configs s act)
  | .thread i (.register _ _) =>
    inferInstanceAs (Decidable ((s.thread i).Unopposed s.shared (configs i).key))
  | .thread _ .begin => isTrue trivial
  | .thread _ .connect => isTrue trivial
  | .thread _ (.refuse _) => isTrue trivial
  | .thread _ .retrieve => isTrue trivial
  | .thread _ (.retrieveFails _) => isTrue trivial
  | .thread _ .proceed => isTrue trivial
  | .thread _ (.registerFails _) => isTrue trivial

/-! ## What a retrieve is worth when its write arrives -/

/-- A step writes, for a registration that is accepted, or leaves the store as it is. -/
theorem processStep_cases [SdkworkUtils] {configs : ι → DiscoveryInstanceConfig} {i : ι}
    {g c : Store} {l k : Phase} {a : Move} {e : Event ι}
    (taken : processStep configs i g l a = some (c, k, e)) :
    (c = g ∧ (e = .quiet ∨ e = .retrieved i)) ∨
    ∃ expected skipped reply, l = .registering expected ∧ a = .register skipped reply ∧
      g.accepts ((configs i).request expected) = true ∧
      c = g.write ((configs i).request expected) skipped ∧ e = .wrote i (configs i).key := by
  unfold processStep at taken
  split at taken
  case h_7 expected skipped reply =>
    unfold Store.register at taken
    split at taken
    · rename_i written accepted
      split at accepted
      · rename_i passes
        cases Option.some.inj accepted
        cases Option.some.inj taken
        exact .inr ⟨expected, skipped, reply, rfl, rfl, passes, rfl, rfl⟩
      · cases accepted
    · cases Option.some.inj taken
      exact .inl ⟨rfl, .inl rfl⟩
  case h_4 =>
    cases Option.some.inj taken
    exact .inl ⟨rfl, .inr rfl⟩
  case h_9 => cases taken
  case h_1 =>
    split at taken <;> cases Option.some.inj taken <;> exact .inl ⟨rfl, .inl rfl⟩
  case h_3 =>
    split at taken <;> cases Option.some.inj taken <;> exact .inl ⟨rfl, .inl rfl⟩
  case h_6 =>
    split at taken <;> cases Option.some.inj taken <;> exact .inl ⟨rfl, .inl rfl⟩
  all_goals
    cases Option.some.inj taken
    exact .inl ⟨rfl, .inl rfl⟩

variable [DecidableEq ι]

/- After an answer: a record that was found is the present one unless the key has been
written since, and then the present one is newer; a key that was absent is present only
when it has been written since. -/
def Tracks (configs : ι → DiscoveryInstanceConfig) (i : ι) (store : Store)
    (history : List (Event ι)) (expected : Option Nat) : Prop :=
  match expected with
  | some revision => revision ≤ store.revision ∧
      (writtenSince i (configs i).key history = true →
        ∃ cell, store.cells (configs i).key = some cell ∧ revision < cell.1)
  | none => writtenSince i (configs i).key history = (store.cells (configs i).key).isSome

def Informed (configs : ι → DiscoveryInstanceConfig) (i : ι) (store : Store)
    (history : List (Event ι)) : Phase → Prop
  | .answered reply =>
    ∀ expected, retrievedRevision reply = .ok expected → Tracks configs i store history expected
  | .registering expected => Tracks configs i store history expected
  | _ => True

def registrationOutline (configs : ι → DiscoveryInstanceConfig) :
    Outline ι Store Phase (Event ι) where
  common _ history := NoLostUpdate history
  own := Informed configs

theorem tracks_retrieved (configs : ι → DiscoveryInstanceConfig) (i : ι) (store : Store)
    (history : List (Event ι)) {expected : Option Nat}
    (resolved : retrievedRevision (store.retrieve (configs i).key) = .ok expected) :
    Tracks configs i store (.retrieved i :: history) expected := by
  unfold Store.retrieve at resolved
  cases found : store.cells (configs i).key with
  | some cell =>
    rw [found] at resolved
    cases resolved
    refine ⟨store.bounded _ cell found, fun written => ?_⟩
    simp [writtenSince] at written
  | none =>
    rw [found] at resolved
    cases resolved
    simp [Tracks, writtenSince, found]

theorem tracks_frame {configs : ι → DiscoveryInstanceConfig} {i : ι} {store : Store}
    {history : List (Event ι)} {e : Event ι} {expected : Option Nat}
    (unseen : writtenSince i (configs i).key (e :: history) =
      writtenSince i (configs i).key history)
    (tracks : Tracks configs i store history expected) :
    Tracks configs i store (e :: history) expected := by
  unfold Tracks
  rw [unseen]
  exact tracks

theorem tracks_write {configs : ι → DiscoveryInstanceConfig} {i j : ι} {store : Store}
    {history : List (Event ι)} {expected : Option Nat} (request : RegisterInstanceRequest)
    (skipped : Nat) (tracks : Tracks configs i store history expected) :
    Tracks configs i (store.write request skipped) (.wrote j request.key :: history) expected := by
  have grows : store.revision < store.revision + 1 + skipped := by omega
  by_cases same : request.key = (configs i).key
  · have present : (store.write request skipped).cells (configs i).key =
        some (store.revision + 1 + skipped, request) := by
      rw [← same]
      exact Function.update_self _ _ _
    cases expected with
    | some revision =>
      refine ⟨Nat.le_of_lt (Nat.lt_of_le_of_lt tracks.1 grows), fun _ => ⟨_, present, ?_⟩⟩
      exact Nat.lt_of_le_of_lt tracks.1 grows
    | none => simp [Tracks, writtenSince, same, present]
  · have kept : (store.write request skipped).cells (configs i).key =
        store.cells (configs i).key := Function.update_of_ne (Ne.symm same) _ _
    cases expected with
    | some revision =>
      refine ⟨Nat.le_of_lt (Nat.lt_of_le_of_lt tracks.1 grows), fun written => ?_⟩
      rw [kept]
      apply tracks.2
      simpa [writtenSince, same] using written
    | none =>
      unfold Tracks at tracks ⊢
      rw [kept, ← tracks]
      simp [writtenSince, same]

theorem accepted_unopposed {configs : ι → DiscoveryInstanceConfig} {i : ι} {store : Store}
    {history : List (Event ι)} {expected : Option Nat}
    (tracks : Tracks configs i store history expected)
    (unopposed : (Phase.registering expected).Unopposed store (configs i).key)
    (accepted : store.accepts ((configs i).request expected) = true) :
    writtenSince i (configs i).key history = false := by
  cases expected with
  | none =>
    unfold Tracks at tracks
    rw [tracks, unopposed]
    rfl
  | some revision =>
    apply Bool.eq_false_iff.mpr
    intro written
    -- The present record is newer than the expected one: the registry would have refused.
    obtain ⟨cell, present, newer⟩ := tracks.2 written
    have same : (store.cells (configs i).key).map Prod.fst = some revision := eq_of_beq accepted
    rw [present] at same
    cases Option.some.inj same
    exact Nat.lt_irrefl _ newer

section

variable [SdkworkUtils]

theorem informed_own {configs : ι → DiscoveryInstanceConfig} {i : ι} {g c : Store}
    {history : List (Event ι)} {l k : Phase} {a : Move} {e : Event ι}
    (retrieves : resolveExpectedRevision (configs i) = .retrieve)
    (informed : Informed configs i g history l)
    (taken : processStep configs i g l a = some (c, k, e)) :
    Informed configs i c (e :: history) k := by
  unfold processStep at taken
  split at taken
  · split at taken <;> cases Option.some.inj taken <;> trivial
  · cases Option.some.inj taken
    trivial
  · rw [retrieves] at taken
    cases Option.some.inj taken
    trivial
  · cases Option.some.inj taken
    exact fun expected resolved => tracks_retrieved configs i _ history resolved
  · cases Option.some.inj taken
    exact nofun
  · split at taken
    · rename_i expected resolved
      cases Option.some.inj taken
      exact tracks_frame rfl (informed expected resolved)
    · cases Option.some.inj taken
      trivial
  · split at taken <;> cases Option.some.inj taken <;> trivial
  · cases Option.some.inj taken
    trivial
  · cases taken

theorem informed_other {configs : ι → DiscoveryInstanceConfig} {i j : ι} {g c : Store}
    {history : List (Event ι)} {l k p : Phase} {a : Move} {e : Event ι} (other : j ≠ i)
    (taken : processStep configs i g l a = some (c, k, e))
    (informed : Informed configs j g history p) : Informed configs j c (e :: history) p := by
  have survives : ∀ expected, Tracks configs j g history expected →
      Tracks configs j c (e :: history) expected := by
    intro expected tracks
    rcases processStep_cases taken with ⟨rfl, rfl | rfl⟩ | ⟨_, skipped, _, _, _, _, rfl, rfl⟩
    · exact tracks_frame rfl tracks
    · apply tracks_frame _ tracks
      simp [writtenSince, other.symm]
    · exact tracks_write _ skipped tracks
  cases p with
  | answered reply => exact fun expected resolved => survives expected (informed expected resolved)
  | registering expected => exact survives expected informed
  | _ => trivial

theorem registration_preserved (configs : ι → DiscoveryInstanceConfig)
    (retrieve : ∀ i, resolveExpectedRevision (configs i) = .retrieve) (s : World ι)
    (act : Action ι) (t : World ι) (held : (registrationOutline configs).Holds s)
    (absent : RegistersAbsent configs s act) (taken : step configs s act = some t) :
    (registrationOutline configs).Holds t := by
  refine outline_preserved _ (RegistersAbsent configs) ?_ ?_ ?_ s act t held absent taken
  · intro s i a c k e held absent hs
    refine ⟨?_, informed_own (retrieve i) (held.2 i) hs⟩
    rcases processStep_cases hs with
      ⟨rfl, rfl | rfl⟩ | ⟨expected, _, _, phase, rfl, accepted, _, rfl⟩
    · exact held.1
    · exact held.1
    · have mine : Informed configs i s.shared s.history (s.thread i) := held.2 i
      have unopposed : (s.thread i).Unopposed s.shared (configs i).key := absent
      rw [phase] at mine unopposed
      exact ⟨accepted_unopposed mine unopposed accepted, held.1⟩
  · intro s i a c k e j held _ hs other
    exact informed_other other hs (held.2 j)
  · intro s b
    cases b

theorem opposed_overwrites (configs : ι → DiscoveryInstanceConfig) (s : World ι) (act : Action ι)
    (t : World ι) (held : (registrationOutline configs).Holds s)
    (opposed : ¬ RegistersAbsent configs s act) (taken : step configs s act = some t) :
    ¬ NoLostUpdate t.history := by
  cases act with
  | environment b => cases b
  | thread i a =>
    cases a with
    | register skipped reply =>
      obtain ⟨c, k, e, hs, rfl⟩ := Interleaving.next_thread taken
      have mine : Informed configs i s.shared s.history (s.thread i) := held.2 i
      change ¬ (s.thread i).Unopposed s.shared (configs i).key at opposed
      unfold Phase.Unopposed at opposed
      split at opposed
      · rename_i phase
        rw [phase] at mine hs
        cases Option.some.inj hs
        intro noLost
        have written := noLost.1
        change writtenSince i (configs i).key s.history = _ at mine
        rw [mine, Option.isSome_eq_false_iff, Option.isNone_iff_eq_none] at written
        exact opposed written
      · exact absurd trivial opposed
    | _ => exact absurd trivial opposed

/-- Processes that all compare revisions lose no update in a run if and only if every
registration that found the key absent is handled while it still is. -/
theorem cas_registration_loses_nothing_iff (configs : ι → DiscoveryInstanceConfig)
    (compares : ∀ i, (configs i).revisionCasOnRegister = true ∧ (configs i).expectedRevision = none)
    (as : List (Action ι)) (s : World ι) (ends : run (step configs) (start ι) as = some s) :
    Throughout (step configs) (fun s => NoLostUpdate s.history) (start ι) as ↔
      Along (step configs) (RegistersAbsent configs) (start ι) as := by
  have retrieve : ∀ i, resolveExpectedRevision (configs i) = .retrieve := by
    intro i
    obtain ⟨compare, unset⟩ := compares i
    unfold resolveExpectedRevision
    rw [unset, compare]
    rfl
  have initial : (registrationOutline configs).Holds (start ι) := ⟨trivial, fun _ => trivial⟩
  apply throughout_iff_along _ _ _ (registrationOutline configs).Holds _ _ _ _ _ s initial ends
  · exact fun _ held => held.1
  · exact registration_preserved configs retrieve
  · exact opposed_overwrites configs

end

attribute [local instance] languageUtils

/- Processes with one instance key, each comparing revisions. -/
def sharedConfig (i : Nat) : DiscoveryInstanceConfig :=
  ⟨"http://127.0.0.1:19090", "sdkwork", "development", "orders", "orders-1",
    if i = 0 then "grpc://a:1" else "grpc://b:1", "grpc", "1", "r", "z", 30, "orders",
    [("rpc_surface", "app")], true, none⟩

def prepare (i : Nat) : List (Action Nat) :=
  [.thread i .begin, .thread i .connect, .thread i .retrieve, .thread i .proceed]

def oneAfterTheOther : List (Action Nat) :=
  prepare 0 ++ .thread 0 (.register 0 "lease-a") :: prepare 1 ++ [.thread 1 (.register 4 "lease-b")]

theorem cas_registration_loses_nothing_in_turn :
    Throughout (step sharedConfig) (fun s => NoLostUpdate s.history) (start Nat)
      oneAfterTheOther ∧
    ∃ s, run (step sharedConfig) (start Nat) oneAfterTheOther = some s ∧
      (s.shared.cells (sharedConfig 0).key).map Prod.fst = some 6 :=
  ⟨(cas_registration_loses_nothing_iff sharedConfig (fun _ => ⟨rfl, rfl⟩) oneAfterTheOther _
    rfl).mpr (by decide), _, rfl, by decide⟩

def bothFirst : List (Action Nat) :=
  prepare 0 ++ prepare 1 ++ [.thread 0 (.register 0 "lease-a"), .thread 1 (.register 0 "lease-b")]

theorem cas_registration_overwrites :
    (∀ i, (sharedConfig i).revisionCasOnRegister = true ∧
      (sharedConfig i).expectedRevision = none) ∧
    ∃ s, run (step sharedConfig) (start Nat) bothFirst = some s ∧
      (s.shared.cells (sharedConfig 0).key).map (fun cell => cell.2.endpoint) =
        some "grpc://b:1" ∧
      s.history.head? = some (.wrote 1 (sharedConfig 1).key) ∧
      writtenSince 1 (sharedConfig 1).key s.history.tail = true ∧ ¬ NoLostUpdate s.history := by
  refine ⟨fun _ => ⟨rfl, rfl⟩, _, rfl, by decide, by decide, by decide, fun noLost => ?_⟩
  exact absurd noLost.1 (by decide)

end SdkworkRpc.Discovery
