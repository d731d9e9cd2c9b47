import SdkworkRpc.Client.WatchLoops
import SdkworkRpc.Client.WatchAgreement
import SdkworkRpc.Client.CacheFreshness

/-! A resolver with one watch loop as a replica of the registry: mutations go into the log of
the server, the loop is delivered what follows its cursor, and its connection may be lost at
any point. The mirror, which handles each mutation when it is made, is what it replicates. -/
namespace SdkworkRpc.Client.Replica

open Run Watching

structure State where
  shared : Shared Unit
  loop : Loop
  registry : Registry
  entry : Option CachedEndpoints
  mutations : List Mutation

def emptyLog : Server Unit := ⟨[], 0, .nil, nofun⟩

def State.start : State := ⟨⟨emptyLog, 0⟩, .disconnected, .empty, none, []⟩

/- A mutation may take a later revision than the next: the others are those of other services. -/
inductive Action where
  | mutate (m : Mutation) (skipped : Nat)
  | move (move : Move) (now : Nat)
  | beat (message : WatchMessage) (now : Nat)

/-- The message in hand is handled when its revision has been stored. -/
def handle [SdkworkUtils] (proto : DiscoveryProto) (now : Nat)
    (entry : Option CachedEndpoints) : Loop → Move → Option CachedEndpoints
  | .received _ message, .advance => applyMessage proto now message entry
  | _, _ => entry

def step [SdkworkUtils] (server : RegistryServer) (s : State) : Action → Option State
  | .mutate m skipped =>
    (mutate server (s.shared.server.revision + 1 + skipped) s.registry m).map fun result =>
      { s with
        shared := { s.shared with
          server := s.shared.server.append
            ⟨skipped, (), result.2.eventType, result.2.serviceInstance⟩ }
        registry := result.1
        mutations := s.mutations ++ [m] }
  | .move move now =>
    (loopStep () s.shared s.loop move).map fun result =>
      { s with
        shared := result.1
        loop := result.2.1
        entry := handle server.toDiscoveryProto now s.entry s.loop move }
  | .beat message now =>
    match s.loop with
    | .streaming _ =>
      if server.eventType message = .heartbeat then
        some { s with
          shared := { s.shared with
            lastRevision := advanceRevision s.shared.lastRevision message }
          entry := applyMessage server.toDiscoveryProto now message s.entry }
      else none
    | _ => none

def reached : Loop → Option Nat
  | .streaming position => some position
  | _ => none

/-- A heartbeat carries no revision beyond the last one delivered on its stream. -/
def BeatsDelivered (s : State) : Action → Prop
  | .beat message _ => ∀ revision ∈ message.revision, ∀ position ∈ reached s.loop,
      revision ≤ position
  | _ => True

instance (s : State) : (a : Action) → Decidable (BeatsDelivered s a)
  | .mutate _ _ | .move _ _ => isTrue trivial
  | .beat message _ => inferInstanceAs (Decidable (∀ revision ∈ message.revision, _))

def CaughtUp (s : State) : Prop :=
  ∃ position, s.loop = .streaming position ∧ s.shared.server.next () position = none

/-- The entries of the log are the messages of the mutations, from one registry to the other. -/
def Recorded (server : RegistryServer) :
    Registry → List Mutation → List (LogEntry Unit) → Registry → Prop
  | r, [], [], last => r = last
  | r, m :: ms, e :: es, last => ∃ next, mutate server e.revision r m = some (next, e.message) ∧
      Recorded server next ms es last
  | _, _, _, _ => False

section

variable {server : RegistryServer}

theorem recorded_append {r last next : Registry} {ms : List Mutation} {es : List (LogEntry Unit)}
    {m : Mutation} {e : LogEntry Unit} (recorded : Recorded server r ms es last)
    (mutated : mutate server e.revision last m = some (next, e.message)) :
    Recorded server r (ms ++ [m]) (es ++ [e]) next := by
  induction ms generalizing r es with
  | nil =>
    cases es with
    | nil =>
      cases recorded
      exact ⟨next, mutated, rfl⟩
    | cons e es => cases recorded
  | cons first ms ih =>
    cases es with
    | nil => cases recorded
    | cons e es =>
      obtain ⟨middle, taken, rest⟩ := recorded
      exact ⟨middle, taken, ih rest⟩

theorem recorded_none {r last : Registry} {ms : List Mutation}
    (recorded : Recorded server r ms [] last) : ms = [] ∧ r = last := by
  cases ms with
  | nil => exact ⟨rfl, recorded⟩
  | cons m ms => cases recorded

end

/-- A session that is opened or open stands at the cursor; a message in hand is the first of
those that have not been handled. -/
def Located (cursor : Nat) (after : List (LogEntry Unit)) : Loop → Prop
  | .disconnected => True
  | .connecting position => position = cursor
  | .streaming position => position = cursor
  | .received position message =>
    ∃ e rest, after = e :: rest ∧ position = e.revision ∧ message = e.message

section

variable [SdkworkUtils]

/-- The log is split at the cursor, and the cache is the mirror's after the first part. -/
structure Follows (server : RegistryServer) (s : State) (done : List (Mutation × Nat))
    (left : List Mutation) (before after : List (LogEntry Unit)) (mirror : Mirror) : Prop where
  mutations : s.mutations = done.map Prod.fst ++ left
  log : s.shared.server.log = before ++ after
  mirrored : run (Mirror.step server) .start done = some mirror
  entry : entryEndpoints s.entry = entryEndpoints mirror.entry
  recorded : Recorded server mirror.registry left after s.registry
  handled : ∀ e ∈ before, e.revision ≤ s.shared.lastRevision
  ahead : ∀ e ∈ after, s.shared.lastRevision < e.revision
  cursor : s.shared.lastRevision ≤ s.shared.server.revision
  located : Located s.shared.lastRevision after s.loop

def Following (server : RegistryServer) (s : State) : Prop :=
  ∃ done left before after mirror, Follows server s done left before after mirror

variable {server : RegistryServer}

theorem applyMessage_alike {proto : DiscoveryProto} {entry other : Option CachedEndpoints}
    (same : entryEndpoints entry = entryEndpoints other) (m : WatchMessage) (now : Nat)
    (revision : Option Nat) :
    entryEndpoints (applyMessage proto now m entry) =
      entryEndpoints (applyMessage proto now { m with revision := revision } other) := by
  rw [applyMessage_endpoints, applyMessage_endpoints, same]
  rfl

theorem mirror_run {mirror : Mirror} {m : Mutation} {e : LogEntry Unit} {next : Registry}
    (mutated : mutate server e.revision mirror.registry m = some (next, e.message)) (now : Nat) :
    run (Mirror.step server) mirror [(m, now)] = some ⟨mirror.revision + 1, next,
      applyMessage server.toDiscoveryProto now
        { e.message with revision := some (mirror.revision + 1) } mirror.entry⟩ := by
  obtain ⟨record, carried, result⟩ := Option.map_eq_some_iff.mp mutated
  obtain ⟨rfl, message⟩ := Prod.mk.inj result
  rw [run, Mirror.step, mutate, carried, Option.map_some, Option.map_some, ← message]
  rfl

variable {s t : State} {done : List (Mutation × Nat)} {left : List Mutation}
  {before after : List (LogEntry Unit)} {mirror : Mirror}

theorem Follows.next (follows : Follows server s done left before after mirror) :
    s.shared.server.next () s.shared.lastRevision = after.head? := by
  rw [Server.next, follows.log]
  apply Log.find_after
  · intro e member
    simpa using follows.handled e member
  · intro e member
    simpa using follows.ahead e member

theorem follows_mutate (follows : Follows server s done left before after mirror) {m : Mutation}
    {skipped : Nat} (taken : step server s (.mutate m skipped) = some t) :
    Following server t := by
  obtain ⟨⟨r, message⟩, mutated, rfl⟩ := Option.map_eq_some_iff.mp taken
  obtain ⟨record, carried, result⟩ := Option.map_eq_some_iff.mp mutated
  obtain ⟨rfl, rfl⟩ := Prod.mk.inj result
  have later : s.shared.lastRevision < s.shared.server.revision + 1 + skipped := by
    have cursor := follows.cursor
    omega
  have recorded := recorded_append
    (e := ⟨s.shared.server.revision + 1 + skipped, (), m.code server, some record⟩)
    follows.recorded mutated
  refine ⟨done, left ++ [m], before, _, mirror, ?_, ?_, follows.mirrored, follows.entry,
    recorded, follows.handled, ?_, Nat.le_of_lt later, ?_⟩
  · simp only [follows.mutations, List.append_assoc]
  · simp only [Server.append, follows.log, List.append_assoc]
    rfl
  · intro e member
    rcases List.mem_append.mp member with old | new
    · exact follows.ahead e old
    · cases List.mem_singleton.mp new
      exact later
  · -- A message in hand stays the first.
    have located := follows.located
    cases place : s.loop with
    | received position held =>
      rw [place] at located
      obtain ⟨e, rest, split, reached, same⟩ := located
      exact ⟨e, _, by rw [split, List.cons_append], reached, same⟩
    | _ =>
      rw [place] at located
      exact located

def State.advanced (server : RegistryServer) (s : State) (e : LogEntry Unit) (now : Nat) : State :=
  { s with
    shared := { s.shared with lastRevision := advanceRevision s.shared.lastRevision e.message }
    loop := .streaming e.revision
    entry := applyMessage server.toDiscoveryProto now e.message s.entry }

theorem follows_advance {e : LogEntry Unit} {rest : List (LogEntry Unit)}
    (follows : Follows server s done left before (e :: rest) mirror) (now : Nat) :
    ∃ done left before mirror, Follows server (s.advanced server e now) done left before rest
      mirror := by
  have ahead := follows.ahead e List.mem_cons_self
  have cursor : advanceRevision s.shared.lastRevision e.message = e.revision := by
    rw [advanceRevision, LogEntry.message]
    simp only [if_pos (Nat.zero_lt_of_lt ahead)]
    exact Nat.max_eq_right (Nat.le_of_lt ahead)
  have sorted := s.shared.server.sorted
  rw [follows.log] at sorted
  have later := (List.pairwise_cons.mp (List.pairwise_append.mp sorted).2.1).1
  have logged : e ∈ s.shared.server.log := by
    rw [follows.log]
    exact List.mem_append_right _ List.mem_cons_self
  have recorded := follows.recorded
  cases left with
  | nil => cases recorded
  | cons m left =>
    obtain ⟨next, mutated, recorded⟩ := recorded
    have mirrored := run_append follows.mirrored (mirror_run mutated now)
    refine ⟨done ++ [(m, now)], left, before ++ [e], _, ?_, ?_, mirrored,
      applyMessage_alike follows.entry e.message now _, recorded, ?_, ?_, ?_, cursor.symm⟩
    · simp only [State.advanced, follows.mutations, List.map_append, List.map_cons, List.map_nil,
        List.append_assoc, List.cons_append, List.nil_append]
    · simp only [State.advanced, follows.log, List.append_assoc, List.cons_append, List.nil_append]
    · intro d member
      simp only [State.advanced, cursor]
      rcases List.mem_append.mp member with old | new
      · exact Nat.le_trans (follows.handled d old) (Nat.le_of_lt ahead)
      · cases List.mem_singleton.mp new
        exact Nat.le_refl _
    · intro d member
      simp only [State.advanced, cursor]
      exact later d member
    · simp only [State.advanced, cursor]
      exact s.shared.server.recorded e logged

/-- A move that leaves log, cursor and cache alone only has to say where the loop stands. -/
theorem Follows.relocate (follows : Follows server s done left before after mirror) {loop : Loop}
    (located : Located s.shared.lastRevision after loop) :
    Following server { s with loop := loop } :=
  ⟨done, left, before, after, mirror, follows.mutations, follows.log, follows.mirrored,
    follows.entry, follows.recorded, follows.handled, follows.ahead, follows.cursor, located⟩

theorem follows_move (follows : Follows server s done left before after mirror) {move : Move}
    {now : Nat} (taken : step server s (.move move now) = some t) : Following server t := by
  obtain ⟨shared, loop, registry, entry, mutations⟩ := s
  obtain ⟨⟨g, l, e⟩, moved, rfl⟩ := Option.map_eq_some_iff.mp taken
  have located := follows.located
  simp only at moved located ⊢
  unfold loopStep at moved
  split at moved
  · cases Option.some.inj moved
    have opened : Located shared.lastRevision after (.connecting shared.lastRevision) := rfl
    exact follows.relocate opened
  · cases Option.some.inj moved
    exact follows.relocate located
  · obtain ⟨entry, found, ended⟩ := Option.map_eq_some_iff.mp moved
    cases ended
    cases located
    rw [follows.next] at found
    obtain ⟨rest, rfl⟩ := List.head?_eq_some_iff.mp found
    exact follows.relocate ⟨entry, rest, rfl, rfl, rfl⟩
  · cases Option.some.inj moved
    obtain ⟨e, rest, rfl, rfl, rfl⟩ := located
    obtain ⟨done, left, before, mirror, follows⟩ := follows_advance follows now
    exact ⟨done, left, before, rest, mirror, follows⟩
  · cases Option.some.inj moved
    exact follows.relocate trivial
  · cases Option.some.inj moved
    exact follows.relocate trivial
  · cases moved

omit [SdkworkUtils] in
theorem advanceRevision_delivered {position : Nat} {message : WatchMessage}
    (delivered : ∀ revision ∈ message.revision, revision ≤ position) :
    advanceRevision position message = position := by
  unfold advanceRevision
  cases carried : message.revision with
  | none => rfl
  | some revision =>
    have past := delivered revision (by rw [carried]; rfl)
    simp only [Nat.max_eq_left past, ite_self]

theorem follows_beat (follows : Follows server s done left before after mirror)
    {message : WatchMessage} {now : Nat} (delivered : BeatsDelivered s (.beat message now))
    (taken : step server s (.beat message now) = some t) : Following server t := by
  obtain ⟨shared, loop, registry, entry, mutations⟩ := s
  cases loop with
  | streaming position =>
    simp only [step] at taken
    split at taken
    · rename_i beats
      cases Option.some.inj taken
      have located : position = shared.lastRevision := follows.located
      subst located
      have still := advanceRevision_delivered fun revision carried =>
        delivered revision carried _ rfl
      have kept : entryEndpoints (applyMessage server.toDiscoveryProto now message entry) =
          entryEndpoints entry := by
        rw [applyMessage_endpoints, change, if_pos beats]
      rw [still]
      exact ⟨done, left, before, after, mirror, follows.mutations, follows.log, follows.mirrored,
        kept.trans follows.entry, follows.recorded, follows.handled, follows.ahead,
        follows.cursor, rfl⟩
    · cases taken
  | _ => cases taken

theorem following_step (s : State) (a : Action) (t : State) (held : Following server s)
    (delivered : BeatsDelivered s a) (taken : step server s a = some t) : Following server t := by
  obtain ⟨done, left, before, after, mirror, follows⟩ := held
  cases a with
  | mutate m skipped => exact follows_mutate follows taken
  | move move now => exact follows_move follows taken
  | beat message now => exact follows_beat follows delivered taken

theorem following_run {actions : List Action} (ends : run (step server) .start actions = some s)
    (delivered : Along (step server) BeatsDelivered .start actions) : Following server s := by
  apply run_invariant (step server) BeatsDelivered (Following server) following_step actions .start
    s ?_ delivered ends
  exact ⟨[], [], [], [], .start, rfl, rfl, rfl, rfl, rfl, nofun, nofun, Nat.le_refl _, trivial⟩

theorem Follows.caughtUp (follows : Follows server s done left before after mirror)
    (caught : CaughtUp s) : left = [] ∧ mirror.registry = s.registry := by
  obtain ⟨position, place, none⟩ := caught
  have located := follows.located
  rw [place] at located
  cases located
  rw [follows.next] at none
  cases List.head?_eq_none_iff.mp none
  exact recorded_none follows.recorded

/-! ## Catching up -/

/-- By moves of the loop alone, at the given time. -/
def Moves (server : RegistryServer) (now : Nat) (s t : State) : Prop :=
  ∃ moves : List Move, run (step server) s (moves.map fun m => .move m now) = some t

theorem Moves.trans {now : Nat} {u : State} (first : Moves server now s t)
    (second : Moves server now t u) : Moves server now s u := by
  obtain ⟨as, reached⟩ := first
  obtain ⟨bs, ended⟩ := second
  refine ⟨as ++ bs, ?_⟩
  rw [List.map_append]
  exact run_append reached ended

theorem moves_streaming (server : RegistryServer) (s : State) (now : Nat) :
    ∃ t position, Moves server now s t ∧ t.loop = .streaming position ∧
      t.mutations = s.mutations ∧ t.registry = s.registry := by
  obtain ⟨shared, loop, registry, entry, mutations⟩ := s
  cases loop with
  | disconnected => exact ⟨_, _, ⟨[.read, .connect], rfl⟩, rfl, rfl, rfl⟩
  | connecting position => exact ⟨_, _, ⟨[.connect], rfl⟩, rfl, rfl, rfl⟩
  | streaming position => exact ⟨_, _, ⟨[], rfl⟩, rfl, rfl, rfl⟩
  | received position message => exact ⟨_, _, ⟨[.advance], rfl⟩, rfl, rfl, rfl⟩

theorem moves_caughtUp (now : Nat) (follows : Follows server s done left before after mirror)
    {position : Nat} (place : s.loop = .streaming position) :
    ∃ t, Moves server now s t ∧ CaughtUp t ∧ t.mutations = s.mutations ∧
      t.registry = s.registry := by
  have located := follows.located
  have found := follows.next
  rw [place] at located
  cases located
  induction after generalizing s done left before mirror with
  | nil => exact ⟨s, ⟨[], rfl⟩, ⟨_, place, found⟩, rfl, rfl⟩
  | cons e rest ih =>
    have handled : Moves server now s (s.advanced server e now) := by
      refine ⟨[.receive, .advance], ?_⟩
      simp only [List.map_cons, List.map_nil, run, step, place, loopStep, found, List.head?_cons,
        Option.map_some, Option.bind_some, handle]
      rfl
    obtain ⟨done, left, before, mirror, further⟩ := follows_advance follows now
    have located : e.revision = (s.advanced server e now).shared.lastRevision := further.located
    obtain ⟨t, moves, caught, mutations, registry⟩ :=
      ih further further.next (congrArg Loop.streaming located)
    exact ⟨t, handled.trans moves, caught, mutations, registry⟩

/-- Over all orders of mutations, deliveries, heartbeats with delivered revisions, lost
connections and reconnects: the cache holds what handling some first mutations once each and in
their order would have put there; when the session has nothing more to deliver these are all of
them, so that what agrees with discovery in the mirror agrees here; and the loop can always get
there on its own. -/
theorem watch_replica_follows (server : RegistryServer) (serviceName : String)
    (actions : List Action) (s : State) (ends : run (step server) .start actions = some s)
    (delivered : Along (step server) BeatsDelivered .start actions) :
    (∃ done left mirror, s.mutations = done.map Prod.fst ++ left ∧
      run (Mirror.step server) .start done = some mirror ∧
      entryEndpoints s.entry = entryEndpoints mirror.entry ∧
      (CaughtUp s → left = [] ∧ mirror.registry = s.registry ∧
        (Along (Mirror.step server) (KeepsOffers server) .start done →
          Agrees server serviceName ⟨mirror.revision, s.registry, s.entry⟩))) ∧
    ∀ now, ∃ t, Moves server now s t ∧ CaughtUp t ∧ t.mutations = s.mutations ∧
      t.registry = s.registry := by
  constructor
  · obtain ⟨done, left, before, after, mirror, follows⟩ := following_run ends delivered
    refine ⟨done, left, mirror, follows.mutations, follows.mirrored, follows.entry, ?_⟩
    intro caught
    obtain ⟨nothing, same⟩ := follows.caughtUp caught
    refine ⟨nothing, same, fun keeps => ?_⟩
    have agrees := run_invariant (Mirror.step server) (KeepsOffers server)
      (Agrees server serviceName)
      (fun s a t agrees keeps taken => (step_agrees_iff agrees taken).mpr keeps) done .start mirror
      (fun _ => Iff.rfl) keeps follows.mirrored
    unfold Agrees at agrees ⊢
    rw [entryNames_eq, ← follows.entry, ← entryNames_eq, same] at agrees
    exact agrees
  · intro now
    obtain ⟨t, position, opened, place, mutations, registry⟩ := moves_streaming server s now
    obtain ⟨moves, reached⟩ := opened
    have quiet : Along (step server) BeatsDelivered s (moves.map fun m => .move m now) := by
      apply along_of_mem
      intro a member s
      obtain ⟨m, -, rfl⟩ := List.mem_map.mp member
      trivial
    obtain ⟨done, left, before, after, mirror, follows⟩ :=
      following_run (run_append ends reached) (along_append ends delivered quiet)
    obtain ⟨u, caught⟩ := moves_caughtUp now follows place
    exact ⟨u, Moves.trans ⟨moves, reached⟩ caught.1, caught.2.1, caught.2.2.1.trans mutations,
      caught.2.2.2.trans registry⟩

end

attribute [local instance] languageUtils

/- Two registrations, the connection lost between them and a heartbeat after the reconnect. -/
def reconnecting : List Action :=
  [.mutate (.register ⟨"i1", "grpc://a:1", 10, 1⟩) 0, .move .read 1, .move .connect 1,
    .move .receive 1, .move .advance 2, .move .fail 3,
    .mutate (.register ⟨"i2", "grpc://b:1", 5, 1⟩) 3, .move .read 4, .move .connect 4,
    .beat ⟨some 1, 4, none⟩ 5, .move .receive 6, .move .advance 6]

theorem watch_replica_follows_reconnecting :
    ∃ s, run (step sampleServer) .start reconnecting = some s ∧ CaughtUp s ∧
      entryNames s.entry = ["grpc://a:1", "grpc://b:1"] ∧
      ∃ done mirror, s.mutations = done.map Prod.fst ∧
        run (Mirror.step sampleServer) .start done = some mirror ∧
        entryEndpoints s.entry = entryEndpoints mirror.entry := by
  obtain ⟨s, ends, caught, holds⟩ : ∃ s, run (step sampleServer) .start reconnecting = some s ∧
      CaughtUp s ∧ entryNames s.entry = ["grpc://a:1", "grpc://b:1"] :=
    ⟨_, rfl, ⟨_, rfl, rfl⟩, by decide⟩
  obtain ⟨⟨done, left, mirror, mutations, mirrored, entry, whole⟩, -⟩ :=
    watch_replica_follows sampleServer "orders" reconnecting s ends (by decide)
  rw [(whole caught).1, List.append_nil] at mutations
  exact ⟨s, ends, caught, holds, done, mirror, mutations, mirrored, entry⟩

/- A heartbeat with the revision of the registry instead, before the second registration is
delivered, and the connection lost: that registration is never delivered. -/
def overtaken : List Action :=
  [.mutate (.register ⟨"i1", "grpc://a:1", 10, 1⟩) 0, .move .read 1, .move .connect 1,
    .move .receive 1, .move .advance 2, .mutate (.register ⟨"i2", "grpc://b:1", 5, 1⟩) 0,
    .beat ⟨some 2, 4, none⟩ 3, .move .fail 4, .move .read 5, .move .connect 5]

example : ∃ s, run (step sampleServer) .start overtaken = some s ∧ CaughtUp s ∧
    s.mutations.length = 2 ∧ entryNames s.entry = ["grpc://a:1"] :=
  ⟨_, rfl, ⟨_, rfl, rfl⟩, rfl, by decide⟩

end SdkworkRpc.Client.Replica
