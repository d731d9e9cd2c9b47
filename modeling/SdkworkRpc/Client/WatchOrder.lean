import SdkworkRpc.Client.WatchLoops
import Mathlib.Data.List.Sort

/-! What the loops of one resolver are delivered, in which order: they share a cursor that any
of them may move, and each may lose its connection at any point. -/
namespace SdkworkRpc.Client.Watching

open Run Interleaving

variable {ι : Type*} [DecidableEq ι]

def deliveries (service : ι) : List (Event ι) → List Nat
  | [] => []
  | .quiet :: history => deliveries service history
  | .delivered other revision :: history =>
    if other = service then revision :: deliveries service history
    else deliveries service history

def UpTo (service : ι) (history : List (Event ι)) (revision : Nat) : Prop :=
  ∀ delivered ∈ deliveries service history, delivered ≤ revision

/- The cursor or, while a message is in hand, the position is beyond all that was delivered. -/
def Abreast (i : ι) (g : Shared ι) (history : List (Event ι)) : Loop → Prop
  | .disconnected => UpTo i history g.lastRevision
  | .connecting position => UpTo i history g.lastRevision ∧ UpTo i history position
  | .streaming position => UpTo i history g.lastRevision ∧ UpTo i history position
  | .received position message =>
    UpTo i history position ∧ 0 < position ∧ message.revision = some position

structure InOrder (g : Shared ι) (history : List (Event ι)) : Prop where
  ordered : ∀ service, (deliveries service history).Pairwise (· > ·)
  logged : ∀ service, ∀ revision ∈ deliveries service history,
    ∃ e ∈ g.server.log, e.service = service ∧ e.revision = revision

def orderOutline : Outline ι (Shared ι) Loop (Event ι) where
  common := InOrder
  own := Abreast

theorem deliveries_other {i j : ι} (apart : j ≠ i) (revision : Nat) (history : List (Event ι)) :
    deliveries j (.delivered i revision :: history) = deliveries j history := by
  rw [deliveries, if_neg apart.symm]

theorem deliveries_self (i : ι) (revision : Nat) (history : List (Event ι)) :
    deliveries i (.delivered i revision :: history) = revision :: deliveries i history := by
  rw [deliveries, if_pos rfl]

theorem UpTo.mono {i : ι} {history : List (Event ι)} {revision later : Nat}
    (upTo : UpTo i history revision) (grows : revision ≤ later) : UpTo i history later :=
  fun delivered member => Nat.le_trans (upTo delivered member) grows

theorem advanceRevision_ge (lastRevision : Nat) (message : WatchMessage) :
    lastRevision ≤ advanceRevision lastRevision message := by
  unfold advanceRevision
  split
  · split
    · exact Nat.le_max_left _ _
    · exact Nat.le_refl _
  · exact Nat.le_refl _

theorem advanceRevision_reaches {lastRevision position : Nat} {message : WatchMessage}
    (carried : message.revision = some position) (positive : 0 < position) :
    position ≤ advanceRevision lastRevision message := by
  rw [advanceRevision, carried]
  simp only [if_pos positive]
  exact Nat.le_max_right _ _

theorem abreast_mono {i : ι} {g c : Shared ι} {history later : List (Event ι)} {l : Loop}
    (same : deliveries i later = deliveries i history) (grows : g.lastRevision ≤ c.lastRevision)
    (abreast : Abreast i g history l) : Abreast i c later l := by
  have kept : ∀ {revision bound}, revision ≤ bound → UpTo i history revision →
      UpTo i later bound := by
    intro revision bound le upTo delivered member
    rw [same] at member
    exact Nat.le_trans (upTo delivered member) le
  cases l with
  | disconnected => exact kept grows abreast
  | connecting position => exact ⟨kept grows abreast.1, kept (Nat.le_refl _) abreast.2⟩
  | streaming position => exact ⟨kept grows abreast.1, kept (Nat.le_refl _) abreast.2⟩
  | received position message => exact ⟨kept (Nat.le_refl _) abreast.1, abreast.2⟩

theorem inOrder_quiet {g c : Shared ι} {history : List (Event ι)} (held : InOrder g history)
    (kept : ∀ e ∈ g.server.log, e ∈ c.server.log) : InOrder c (.quiet :: history) := by
  refine ⟨held.ordered, fun service revision member => ?_⟩
  obtain ⟨e, logged, mine⟩ := held.logged service revision member
  exact ⟨e, kept e logged, mine⟩

theorem inOrder_delivered {i : ι} {g : Shared ι} {history : List (Event ι)} {position : Nat}
    {e : LogEntry ι} (held : InOrder g history) (upTo : UpTo i history position)
    (found : g.server.next i position = some e) :
    InOrder g (.delivered i e.revision :: history) := by
  have beyond := next_mem found
  have mine : e.service = i := by
    have holds := List.find?_some found
    simp only [decide_eq_true_eq] at holds
    exact holds.1
  constructor
  · intro service
    by_cases same : service = i
    · rw [same, deliveries_self, List.pairwise_cons]
      refine ⟨fun delivered member => ?_, held.ordered i⟩
      exact Nat.lt_of_le_of_lt (upTo delivered member) beyond.2
    · rw [deliveries_other same]
      exact held.ordered service
  · intro service revision member
    by_cases same : service = i
    · rw [same, deliveries_self] at member
      rcases List.mem_cons.mp member with rfl | earlier
      · exact ⟨e, beyond.1, mine.trans same.symm, rfl⟩
      · exact held.logged service revision (same ▸ earlier)
    · rw [deliveries_other same] at member
      exact held.logged service revision member

theorem order_sequential {i : ι} {g c : Shared ι} {history : List (Event ι)} {l k : Loop}
    {a : Move} {e : Event ι} (held : InOrder g history) (abreast : Abreast i g history l)
    (taken : loopStep i g l a = some (c, k, e)) :
    InOrder c (e :: history) ∧ Abreast i c (e :: history) k := by
  unfold loopStep at taken
  split at taken
  · cases Option.some.inj taken
    exact ⟨inOrder_quiet held fun _ => id, abreast, abreast⟩
  · cases Option.some.inj taken
    exact ⟨inOrder_quiet held fun _ => id, abreast⟩
  · obtain ⟨entry, found, ended⟩ := Option.map_eq_some_iff.mp taken
    cases ended
    have beyond := (next_mem found).2
    refine ⟨inOrder_delivered held abreast.2 found, ?_, Nat.zero_lt_of_lt beyond, rfl⟩
    intro delivered member
    rw [deliveries_self] at member
    rcases List.mem_cons.mp member with rfl | earlier
    · exact Nat.le_refl _
    · exact Nat.le_trans (abreast.2 delivered earlier) (Nat.le_of_lt beyond)
  · cases Option.some.inj taken
    obtain ⟨upTo, positive, carried⟩ := abreast
    exact ⟨inOrder_quiet held fun _ => id,
      upTo.mono (advanceRevision_reaches carried positive), upTo⟩
  · cases Option.some.inj taken
    exact ⟨inOrder_quiet held fun _ => id, abreast.1⟩
  · cases Option.some.inj taken
    exact ⟨inOrder_quiet held fun _ => id, abreast.1⟩
  · cases taken

theorem order_frame {i j : ι} {g c : Shared ι} {history : List (Event ι)} {l k m : Loop} {a : Move}
    {e : Event ι} (apart : j ≠ i) (abreast : Abreast j g history m)
    (taken : loopStep i g l a = some (c, k, e)) : Abreast j c (e :: history) m := by
  unfold loopStep at taken
  split at taken
  case h_3 =>
    obtain ⟨entry, found, ended⟩ := Option.map_eq_some_iff.mp taken
    cases ended
    exact abreast_mono (deliveries_other apart _ _) (Nat.le_refl _) abreast
  case h_4 =>
    cases Option.some.inj taken
    exact abreast_mono rfl (advanceRevision_ge _ _) abreast
  case h_7 => cases taken
  all_goals
    cases Option.some.inj taken
    exact abreast_mono rfl (Nat.le_refl _) abreast

theorem order_preserved (s : World ι) (act : Action ι) (t : World ι)
    (held : orderOutline.Holds s) (taken : step s act = some t) : orderOutline.Holds t := by
  refine outline_preserved orderOutline (fun _ _ => True) ?_ ?_ ?_ s act t held trivial taken
  · intro s i a c k e held _ moved
    exact order_sequential held.1 (held.2 i) moved
  · intro s i a c k e j held _ moved apart
    exact order_frame apart (held.2 j) moved
  · intro s a c e held _ moved
    cases Option.some.inj moved
    exact ⟨inOrder_quiet held.1 fun _ => List.mem_append_left _,
      fun j => abreast_mono rfl (Nat.le_refl _) (held.2 j)⟩

/-- Over every interleaving of any number of loops with each other and with the server's log:
each loop is delivered entries of its own service only, in the order of the log, and none of
them a second time, however often it reconnects and whoever moved the cursor. -/
theorem deliveries_in_log_order (server : Server ι) (actions : List (Action ι)) (s : World ι)
    (ends : run step (start server) actions = some s) (service : ι) :
    (deliveries service s.history).reverse.Sublist
      ((s.shared.server.log.filter fun e => e.service = service).map (·.revision)) := by
  have initial : orderOutline.Holds (start server) :=
    ⟨⟨fun _ => .nil, fun _ _ member => absurd member List.not_mem_nil⟩,
      fun _ _ member => absurd member List.not_mem_nil⟩
  have held := run_preserves step orderOutline.Holds order_preserved actions _ s initial ends
  have rising : (deliveries service s.history).reverse.Pairwise (· < ·) :=
    List.pairwise_reverse.mpr (held.1.ordered service)
  have log : ((s.shared.server.log.filter fun e => e.service = service).map
      (·.revision)).Pairwise (· < ·) :=
    List.pairwise_map.mpr (s.shared.server.sorted.filter _)
  refine List.sublist_of_subperm_of_pairwise (List.subperm_of_subset rising.nodup ?_) rising log
  intro revision member
  obtain ⟨e, logged, mine, same⟩ :=
    held.1.logged service revision (List.mem_reverse.mp member)
  exact List.mem_map.mpr ⟨e, List.mem_filter.mpr ⟨logged, decide_eq_true mine⟩, same⟩

/- The loop of service 1 is behind the cursor that service 0 has moved, and both reconnect:
it misses its first entry and is delivered the two others once each. -/
def sharedCursor : List (Action Nat) :=
  skippedEntry ++ .thread 1 .fail :: .thread 0 .fail :: publish 0 :: publish 1 :: follow 0 ++
    follow 1

theorem deliveries_in_log_order_shared :
    ∃ s, run step (start emptyServer) sharedCursor = some s ∧
      deliveries 1 s.history = [5, 3] ∧
      (deliveries 1 s.history).reverse.Sublist
        ((s.shared.server.log.filter fun e => e.service = 1).map (·.revision)) :=
  ⟨_, rfl, by decide, deliveries_in_log_order emptyServer sharedCursor _ rfl 1⟩

end SdkworkRpc.Client.Watching
