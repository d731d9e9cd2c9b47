import SdkworkRpc.Client.WatchCache
import SdkworkRpc.Library.Interleaving
import SdkworkRpc.Library.Log

/-! The watch loops of one resolver. Each follows one service and reconnects from
`last_revision`, which all of them share. -/
namespace SdkworkRpc.Client.Watching

open Run Interleaving

structure LogEntry (ι : Type*) where
  revision : Nat
  service : ι
  eventType : Int
  serviceInstance : Option ServiceInstance

def LogEntry.message {ι : Type*} (e : LogEntry ι) : WatchMessage :=
  ⟨some e.revision, e.eventType, e.serviceInstance⟩

/-- The durable log of the discovery server, in the order of its revisions. -/
structure Server (ι : Type*) where
  log : List (LogEntry ι)
  revision : Nat
  sorted : log.Pairwise fun a b => a.revision < b.revision
  recorded : ∀ e ∈ log, e.revision ≤ revision

structure Append (ι : Type*) where
  skipped : Nat
  service : ι
  eventType : Int
  serviceInstance : Option ServiceInstance

def Append.entry {ι : Type*} (a : Append ι) (revision : Nat) : LogEntry ι :=
  ⟨revision + 1 + a.skipped, a.service, a.eventType, a.serviceInstance⟩

theorem Append.entry_later {ι : Type*} (a : Append ι) (revision : Nat) :
    revision < (a.entry revision).revision := by
  change revision < revision + 1 + a.skipped
  omega

def Server.append {ι : Type*} (server : Server ι) (a : Append ι) : Server ι where
  log := server.log ++ [a.entry server.revision]
  revision := (a.entry server.revision).revision
  sorted := Log.append_sorted server.sorted server.recorded (a.entry_later _)
  recorded := Log.append_bounded server.recorded (a.entry_later _)

structure Shared (ι : Type*) where
  server : Server ι
  lastRevision : Nat

/- Where a loop stands: `connecting` has read the cursor, `received` has a message whose
revision it has not yet stored. The position of a session is the revision it has reached. -/
inductive Loop where
  | disconnected
  | connecting (fromRevision : Nat)
  | streaming (position : Nat)
  | received (position : Nat) (message : WatchMessage)

inductive Move where
  | read | connect | receive | advance | fail

inductive Event (ι : Type*) where
  | quiet
  | delivered (service : ι) (revision : Nat)
  deriving DecidableEq

variable {ι : Type*}

/-- What a session for the service delivers next from its position. -/
def Server.next [DecidableEq ι] (server : Server ι) (service : ι) (position : Nat) :
    Option (LogEntry ι) :=
  server.log.find? fun e => e.service = service ∧ position < e.revision

def loopStep [DecidableEq ι] (i : ι) (g : Shared ι) :
    Loop → Move → Option (Shared ι × Loop × Event ι)
  | .disconnected, .read => some (g, .connecting g.lastRevision, .quiet)
  | .connecting fromRevision, .connect => some (g, .streaming fromRevision, .quiet)
  | .streaming position, .receive =>
    (g.server.next i position).map fun e =>
      (g, .received e.revision e.message, .delivered i e.revision)
  | .received position message, .advance =>
    some ({ g with lastRevision := advanceRevision g.lastRevision message },
      .streaming position, .quiet)
  -- A session may end or fail while it waits; a message in hand is handled first.
  | .connecting _, .fail => some (g, .disconnected, .quiet)
  | .streaming _, .fail => some (g, .disconnected, .quiet)
  | _, _ => none

def outsideStep (g : Shared ι) (a : Append ι) : Option (Shared ι × Event ι) :=
  some ({ g with server := g.server.append a }, .quiet)

abbrev World (ι : Type*) := Interleaving.State ι (Shared ι) Loop (Event ι)
abbrev Action (ι : Type*) := Interleaving.Action ι Move (Append ι)

def start (server : Server ι) : World ι := ⟨⟨server, 0⟩, fun _ => .disconnected, []⟩

def step [DecidableEq ι] : World ι → Action ι → Option (World ι) :=
  Interleaving.System.next ⟨loopStep, outsideStep⟩

/-- Every entry of the service after creation and up to the revision has been delivered. -/
def Seen (created : Nat) (g : Shared ι) (history : List (Event ι)) (service : ι)
    (revision : Nat) : Prop :=
  ∀ e ∈ g.server.log, e.service = service → created < e.revision → e.revision ≤ revision →
    .delivered service e.revision ∈ history

instance [DecidableEq ι] (created : Nat) (g : Shared ι) (history : List (Event ι)) (service : ι)
    (revision : Nat) : Decidable (Seen created g history service revision) :=
  inferInstanceAs (Decidable (∀ e ∈ g.server.log, _))

/-- A delivered entry has no undelivered one of its service before it. -/
def NoGap (created : Nat) (g : Shared ι) (history : List (Event ι)) : Prop :=
  ∀ service revision, .delivered service revision ∈ history →
    Seen created g history service revision

/-- A loop that is about to reconnect has been delivered all its entries up to the cursor. -/
def ResumesBehind (created : Nat) (s : World ι) : Action ι → Prop
  | .thread i .read => Seen created s.shared s.history i s.shared.lastRevision
  | _ => True

instance [DecidableEq ι] (created : Nat) (s : World ι) :
    (act : Action ι) → Decidable (ResumesBehind created s act)
  | .thread _ .read => inferInstanceAs (Decidable (Seen _ _ _ _ _))
  | .thread _ .connect => isTrue trivial
  | .thread _ .receive => isTrue trivial
  | .thread _ .advance => isTrue trivial
  | .thread _ .fail => isTrue trivial
  | .environment _ => isTrue trivial

/-! ## What a session has delivered -/

theorem seen_cons {created : Nat} {g c : Shared ι} {history : List (Event ι)} {service : ι}
    {revision : Nat} (same : c.server = g.server) (e : Event ι)
    (seen : Seen created g history service revision) :
    Seen created c (e :: history) service revision := by
  intro entry member mine after upTo
  rw [same] at member
  exact List.mem_cons_of_mem _ (seen entry member mine after upTo)

/- An entry that is appended lies beyond every revision reached so far. -/
theorem seen_append {created : Nat} {g : Shared ι} {history : List (Event ι)} {service : ι}
    {revision : Nat} (reached : revision ≤ g.server.revision) (a : Append ι) (e : Event ι)
    (seen : Seen created g history service revision) :
    Seen created { g with server := g.server.append a } (e :: history) service revision := by
  intro entry member mine after upTo
  rcases List.mem_append.mp member with old | appended
  · exact List.mem_cons_of_mem _ (seen entry old mine after upTo)
  · cases List.mem_singleton.mp appended
    have later := a.entry_later g.server.revision
    omega

def Knows (created : Nat) (i : ι) (g : Shared ι) (history : List (Event ι)) : Loop → Prop
  | .disconnected => True
  | .connecting position => position ≤ g.server.revision ∧ Seen created g history i position
  | .streaming position => position ≤ g.server.revision ∧ Seen created g history i position
  | .received position message => position ≤ g.server.revision ∧
      Seen created g history i position ∧ message.revision = some position

structure Gapless (created : Nat) (g : Shared ι) (history : List (Event ι)) : Prop where
  noGap : NoGap created g history
  logged : ∀ service revision, .delivered service revision ∈ history →
    revision ≤ g.server.revision
  cursor : g.lastRevision ≤ g.server.revision

def loopOutline (created : Nat) : Outline ι (Shared ι) Loop (Event ι) where
  common := Gapless created
  own := Knows created

theorem delivered_quiet {history : List (Event ι)} {service : ι} {revision : Nat}
    (member : .delivered service revision ∈ Event.quiet :: history) :
    .delivered service revision ∈ history := by
  rcases List.mem_cons.mp member with impossible | member
  · cases impossible
  · exact member

theorem gapless_quiet {created : Nat} {g c : Shared ι} {history : List (Event ι)}
    (gapless : Gapless created g history) (same : c.server = g.server)
    (cursor : c.lastRevision ≤ g.server.revision) : Gapless created c (.quiet :: history) := by
  constructor
  · intro service revision member
    exact seen_cons same _ (gapless.noGap service revision (delivered_quiet member))
  · intro service revision member
    rw [same]
    exact gapless.logged service revision (delivered_quiet member)
  · rw [same]
    exact cursor

theorem gapless_append {created : Nat} {g : Shared ι} {history : List (Event ι)}
    (gapless : Gapless created g history) (a : Append ι) :
    Gapless created { g with server := g.server.append a } (.quiet :: history) := by
  have grows := Nat.le_of_lt (a.entry_later g.server.revision)
  constructor
  · intro service revision member
    have reached := gapless.logged service revision (delivered_quiet member)
    exact seen_append reached a _ (gapless.noGap service revision (delivered_quiet member))
  · intro service revision member
    exact Nat.le_trans (gapless.logged service revision (delivered_quiet member)) grows
  · exact Nat.le_trans gapless.cursor grows

/-- What a loop knows survives a step after which every position it can have reached is
still within the log and still has everything before it delivered. -/
theorem knows_mono {created : Nat} {j : ι} {g c : Shared ι} {history later : List (Event ι)}
    {l : Loop} (survives : ∀ position, position ≤ g.server.revision →
      Seen created g history j position →
      position ≤ c.server.revision ∧ Seen created c later j position)
    (knows : Knows created j g history l) : Knows created j c later l := by
  cases l with
  | disconnected => trivial
  | connecting position => exact survives position knows.1 knows.2
  | streaming position => exact survives position knows.1 knows.2
  | received position message =>
    obtain ⟨reached, seen⟩ := survives position knows.1 knows.2.1
    exact ⟨reached, seen, knows.2.2⟩

theorem knows_append {created : Nat} {j : ι} {g : Shared ι} {history : List (Event ι)} {l : Loop}
    (a : Append ι) (knows : Knows created j g history l) :
    Knows created j { g with server := g.server.append a } (.quiet :: history) l := by
  have grows := Nat.le_of_lt (a.entry_later g.server.revision)
  apply knows_mono _ knows
  intro position reached seen
  exact ⟨Nat.le_trans reached grows, seen_append reached a _ seen⟩

theorem knows_frame {created : Nat} {j : ι} {g c : Shared ι} {history : List (Event ι)} {l : Loop}
    (same : c.server = g.server) (e : Event ι) (knows : Knows created j g history l) :
    Knows created j c (e :: history) l := by
  apply knows_mono _ knows
  intro position reached seen
  exact ⟨same ▸ reached, seen_cons same e seen⟩

theorem advanceRevision_le {lastRevision bound position : Nat} {message : WatchMessage}
    (carried : message.revision = some position) (reached : position ≤ bound)
    (cursor : lastRevision ≤ bound) : advanceRevision lastRevision message ≤ bound := by
  unfold advanceRevision
  rw [carried]
  simp only
  split
  · exact Nat.max_le.mpr ⟨cursor, reached⟩
  · exact cursor

variable [DecidableEq ι]

theorem next_mem {server : Server ι} {service : ι} {position : Nat} {e : LogEntry ι}
    (found : server.next service position = some e) : e ∈ server.log ∧ position < e.revision := by
  have holds := List.find?_some found
  simp only [decide_eq_true_eq] at holds
  exact ⟨List.mem_of_find?_eq_some found, holds.2⟩

theorem next_first {server : Server ι} {service : ι} {position : Nat} {e : LogEntry ι}
    (found : server.next service position = some e) {d : LogEntry ι} (member : d ∈ server.log)
    (mine : d.service = service) (beyond : position < d.revision) : e.revision ≤ d.revision := by
  apply Log.find_first server.sorted found member
  simp [mine, beyond]

theorem seen_next {created : Nat} {g : Shared ι} {history : List (Event ι)} {service : ι}
    {position : Nat} {e : LogEntry ι} (found : g.server.next service position = some e)
    (seen : Seen created g history service position) :
    Seen created g (.delivered service e.revision :: history) service e.revision := by
  intro d member mine after upTo
  by_cases before : d.revision ≤ position
  · exact List.mem_cons_of_mem _ (seen d member mine after before)
  -- Between the position and the next entry there is none of this service.
  · have same : d.revision = e.revision := by
      have first := next_first found member mine (by omega)
      omega
    rw [same]
    exact List.mem_cons_self

theorem gapless_delivered {created : Nat} {g : Shared ι} {history : List (Event ι)} {i : ι}
    {position : Nat} {e : LogEntry ι} (gapless : Gapless created g history)
    (seen : Seen created g history i position) (found : g.server.next i position = some e) :
    Gapless created g (.delivered i e.revision :: history) := by
  constructor
  · intro service revision member
    rcases List.mem_cons.mp member with new | member
    · cases new
      exact seen_next found seen
    · exact seen_cons rfl _ (gapless.noGap service revision member)
  · intro service revision member
    rcases List.mem_cons.mp member with new | member
    · cases new
      exact g.server.recorded e (next_mem found).1
    · exact gapless.logged service revision member
  · exact gapless.cursor

theorem loopStep_server {i : ι} {g c : Shared ι} {l k : Loop} {a : Move} {e : Event ι}
    (taken : loopStep i g l a = some (c, k, e)) : c.server = g.server := by
  unfold loopStep at taken
  split at taken
  case h_3 =>
    obtain ⟨_, _, ended⟩ := Option.map_eq_some_iff.mp taken
    cases ended
    rfl
  case h_7 => cases taken
  all_goals
    cases Option.some.inj taken
    rfl

theorem loop_sequential {created : Nat} {i : ι} {g c : Shared ι} {history : List (Event ι)}
    {l k : Loop} {a : Move} {e : Event ι} (gapless : Gapless created g history)
    (knows : Knows created i g history l)
    (resumes : a = .read → Seen created g history i g.lastRevision)
    (taken : loopStep i g l a = some (c, k, e)) :
    Gapless created c (e :: history) ∧ Knows created i c (e :: history) k := by
  unfold loopStep at taken
  split at taken
  · cases Option.some.inj taken
    exact ⟨gapless_quiet gapless rfl gapless.cursor, gapless.cursor, seen_cons rfl _ (resumes rfl)⟩
  · cases Option.some.inj taken
    exact ⟨gapless_quiet gapless rfl gapless.cursor, knows.1, seen_cons rfl _ knows.2⟩
  · obtain ⟨entry, found, ended⟩ := Option.map_eq_some_iff.mp taken
    cases ended
    have logged := g.server.recorded entry (next_mem found).1
    exact ⟨gapless_delivered gapless knows.2 found, logged, seen_next found knows.2, rfl⟩
  · cases Option.some.inj taken
    have cursor := advanceRevision_le knows.2.2 knows.1 gapless.cursor
    exact ⟨gapless_quiet gapless rfl cursor, knows.1, seen_cons rfl _ knows.2.1⟩
  · cases Option.some.inj taken
    exact ⟨gapless_quiet gapless rfl gapless.cursor, trivial⟩
  · cases Option.some.inj taken
    exact ⟨gapless_quiet gapless rfl gapless.cursor, trivial⟩
  · cases taken

theorem loops_preserved (created : Nat) (s : World ι) (act : Action ι) (t : World ι)
    (held : (loopOutline created).Holds s) (resumes : ResumesBehind created s act)
    (taken : step s act = some t) : (loopOutline created).Holds t := by
  refine outline_preserved _ (ResumesBehind created) ?_ ?_ ?_ s act t held resumes taken
  · intro s i a c k e held resumes hs
    apply loop_sequential held.1 (held.2 i) _ hs
    rintro rfl
    exact resumes
  · intro s i a c k e j held _ hs _
    exact knows_frame (loopStep_server hs) e (held.2 j)
  · intro s a c e held _ hs
    cases Option.some.inj hs
    exact ⟨gapless_append held.1 a, fun j => knows_append a (held.2 j)⟩

/-- In every run in which a loop reads the cursor only when it has been delivered all its
entries up to it, no loop is delivered an entry without those of its service before it. -/
theorem reconnects_lose_no_event (server : Server ι) (as : List (Action ι)) (s : World ι)
    (resumes : Along step (ResumesBehind server.revision) (start server) as)
    (ends : run step (start server) as = some s) (service : ι) (revision : Nat)
    (delivered : .delivered service revision ∈ s.history) (e : LogEntry ι)
    (logged : e ∈ s.shared.server.log) (mine : e.service = service)
    (created : server.revision < e.revision) (before : e.revision < revision) :
    .delivered service e.revision ∈ s.history := by
  have initial : (loopOutline server.revision).Holds (start server) :=
    ⟨⟨nofun, nofun, Nat.zero_le _⟩, fun _ => trivial⟩
  have held := run_invariant step _ _ (loops_preserved server.revision) as _ s initial resumes ends
  exact held.1.noGap service revision delivered e logged mine created (Nat.le_of_lt before)

def emptyServer : Server Nat := ⟨[], 0, .nil, nofun⟩

def publish (service : Nat) : Action Nat := .environment ⟨0, service, 1, none⟩

def follow (service : Nat) : List (Action Nat) :=
  [.thread service .read, .thread service .connect, .thread service .receive,
    .thread service .advance]

def orderlyReconnect : List (Action Nat) :=
  publish 0 :: follow 0 ++ publish 1 :: .thread 0 .fail :: publish 0 :: follow 0

theorem reconnects_lose_no_event_orderly :
    ∃ s, run step (start emptyServer) orderlyReconnect = some s ∧
      .delivered 0 3 ∈ s.history ∧ .delivered 0 1 ∈ s.history :=
  ⟨_, rfl, by decide, reconnects_lose_no_event emptyServer orderlyReconnect _ (by decide) rfl 0 3
    (by decide) ⟨1, 0, 1, none⟩ (List.mem_cons_self) rfl (by decide) (by decide)⟩

/- Service 0 moves the cursor to 2 before the loop of service 1 opens its first session. -/
def skippedEntry : List (Action Nat) :=
  publish 1 :: publish 0 :: follow 0 ++ publish 1 :: follow 1

theorem reconnect_loses_event :
    ∃ s, run step (start emptyServer) skippedEntry = some s ∧
      (s.shared.server.log.map fun e => (e.revision, e.service)) = [(1, 1), (2, 0), (3, 1)] ∧
      .delivered 1 3 ∈ s.history ∧ .delivered 1 1 ∉ s.history :=
  ⟨_, rfl, by decide, by decide, by decide⟩

end SdkworkRpc.Client.Watching
