import SdkworkRpc.Library.Run
import SdkworkRpc.Library.Machine

/-! `serve_with_discovery_lifecycle` and the renew task it starts. The helper moves from
one await to the next with whatever the outside gives it; the renew task moves on its own,
in any order with the helper, and goes on after the helper has returned. -/
namespace SdkworkRpc.Server

open Machine Run

inductive ServeError where
  | transport (message : String)
  | discoveryDeregister (message : String)
  | signal (message : String)
  deriving DecidableEq, Repr

abbrev ServeResult := Except ServeError Unit

instance : DecidableEq ServeResult
  | .ok (), .ok () => isTrue rfl
  | .error a, .error b => decidable_of_iff (a = b) ⟨congrArg _, Except.error.inj⟩
  | .ok (), .error _ => isFalse nofun
  | .error _, .ok () => isFalse nofun

/- Where the helper stands. The renew loop is spawned first; `serving` is the select
between the serve future and the shutdown signal. -/
inductive Point where
  | spawn
  | bind
  | serving
  | draining
  | deregister
  | deregistering
  | abort (result : ServeResult)
  | leave (result : ServeResult)
  | returned (result : ServeResult)
  deriving DecidableEq

/- The renew task, with its count of consecutive failures. Between `woken` and its next
await the task is being polled, and an abort only takes effect at that await: `dying`. -/
inductive RenewTask where
  | unspawned
  | sleeping (failures : Nat)
  | woken (failures : Nat)
  | renewing (failures : Nat)
  | dying
  | stopped
  deriving DecidableEq, Repr

inductive Event where
  | renewSent
  | deregisterSent
  | deregisterDone
  | aborted
  | returned (result : ServeResult)
  | quiet
  deriving DecidableEq

inductive HelperMove where
  | spawned
  | bound (outcome : Except String Unit)
  | served (outcome : Except String Unit)
  | signalled
  | drained (outcome : Except String Unit)
  | drainTimedOut
  | sendDeregister
  | deregistered (outcome : Except String Unit)
  | abort
  | leave

inductive RenewMove where
  | wake
  | send
  | reply (succeeded : Bool)
  deriving DecidableEq, Repr

inductive Action where
  | helper (move : HelperMove)
  | renew (move : RenewMove)

structure World where
  point : Point
  task : RenewTask
  history : List Event
  deriving DecidableEq

def World.start : World := ⟨.spawn, .unspawned, []⟩

/-- The early returns: the error becomes a transport error and the function is left. -/
def earlyReturn (message : String) : Point × Event :=
  (.returned (.error (.transport message)), .returned (.error (.transport message)))

/-- One move of the helper. Only with a drain timeout can the drain time out, and then the
helper goes on as if it had drained. -/
def helperStep (drainTimeout : Option Duration) : Point → HelperMove → Option (Point × Event)
  | .spawn, .spawned => some (.bind, .quiet)
  | .bind, .bound (.ok ()) => some (.serving, .quiet)
  | .bind, .bound (.error message) => some (earlyReturn message)
  | .serving, .served (.ok ()) => some (.deregister, .quiet)
  | .serving, .served (.error message) => some (earlyReturn message)
  | .serving, .signalled => some (.draining, .quiet)
  | .draining, .drained (.ok ()) => some (.deregister, .quiet)
  | .draining, .drained (.error message) => some (earlyReturn message)
  | .draining, .drainTimedOut =>
    if drainTimeout.isSome = true then some (.deregister, .quiet) else none
  | .deregister, .sendDeregister => some (.deregistering, .deregisterSent)
  | .deregistering, .deregistered (.ok ()) => some (.abort (.ok ()), .deregisterDone)
  | .deregistering, .deregistered (.error message) =>
    some (.abort (.error (.discoveryDeregister message)), .deregisterDone)
  | .abort result, .abort => some (.leave result, .aborted)
  | .leave result, .leave => some (.returned result, .returned result)
  | _, _ => none

def RenewTask.abort : RenewTask → RenewTask
  | .woken _ => .dying
  | .dying => .dying
  | _ => .stopped

/-- The part of a helper's move that touches the task. A handle that is dropped by an early
return leaves its task running. -/
def taskAfter (task : RenewTask) : HelperMove → RenewTask
  | .spawned => .sleeping 0
  | .abort => task.abort
  | _ => task

/-- The loop of `spawn_renew_loop_with_config`: sleep, send the renewal, count its failures. -/
def renewStep : RenewTask → RenewMove → Option (RenewTask × Event)
  | .sleeping failures, .wake => some (.woken failures, .quiet)
  | .woken failures, .send => some (.renewing failures, .renewSent)
  | .dying, .send => some (.stopped, .renewSent)
  | .renewing _, .reply true => some (.sleeping 0, .quiet)
  | .renewing failures, .reply false => some (.sleeping (saturatingAdd u32Max failures 1), .quiet)
  | _, _ => none

def serveStep (drainTimeout : Option Duration) (s : World) : Action → Option World
  | .helper move => (helperStep drainTimeout s.point move).map fun r =>
      ⟨r.1, taskAfter s.task move, r.2 :: s.history⟩
  | .renew move => (renewStep s.task move).map fun r => ⟨s.point, r.1, r.2 :: s.history⟩

/-- The lease is given up in order: before the helper returns it has attempted to deregister
and has aborted the renew task, the abort follows the end of that attempt, and no renewal is
sent after the return. -/
def Released : List Event → Prop
  | [] => True
  | .returned _ :: h => .deregisterSent ∈ h ∧ .aborted ∈ h ∧ Released h
  | .renewSent :: h => (∀ result, .returned result ∉ h) ∧ Released h
  | .aborted :: h => .deregisterDone ∈ h ∧ Released h
  | _ :: h => Released h

def NoTransportError (_ : World) : Action → Prop
  | .helper (.bound outcome) => outcome.isOk = true
  | .helper (.served outcome) => outcome.isOk = true
  | .helper (.drained outcome) => outcome.isOk = true
  | _ => True

def AbortAtAwait (s : World) : Action → Prop
  | .helper .abort => ∀ failures, s.task ≠ .woken failures
  | _ => True

instance (s : World) : (a : Action) → Decidable (NoTransportError s a)
  | .helper (.bound outcome) => inferInstanceAs (Decidable (outcome.isOk = true))
  | .helper (.served outcome) => inferInstanceAs (Decidable (outcome.isOk = true))
  | .helper (.drained outcome) => inferInstanceAs (Decidable (outcome.isOk = true))
  | .helper .spawned | .helper .signalled | .helper .drainTimedOut | .helper .sendDeregister
  | .helper (.deregistered _) | .helper .abort | .helper .leave | .renew _ => isTrue trivial

instance (task : RenewTask) : Decidable (∀ failures, task ≠ .woken failures) :=
  match task with
  | .woken failures => isFalse fun apart => apart failures rfl
  | .unspawned | .sleeping _ | .renewing _ | .dying | .stopped => isTrue nofun

instance (s : World) : (a : Action) → Decidable (AbortAtAwait s a)
  | .helper .abort => inferInstanceAs (Decidable (∀ failures, s.task ≠ .woken failures))
  | .helper .spawned | .helper (.bound _) | .helper (.served _) | .helper .signalled
  | .helper (.drained _) | .helper .drainTimedOut | .helper .sendDeregister
  | .helper (.deregistered _) | .helper .leave | .renew _ => isTrue trivial

structure Live (task : RenewTask) (h : List Event) : Prop where
  running : task ≠ .dying
  unaborted : .aborted ∉ h
  unreturned : ∀ result, .returned result ∉ h

/-- What is known of the task and the history where the helper stands. -/
def Assertion (task : RenewTask) (h : List Event) : Point → Prop
  | .deregistering => Live task h ∧ .deregisterSent ∈ h
  | .abort _ => Live task h ∧ .deregisterSent ∈ h ∧ .deregisterDone ∈ h
  | .leave _ => (∀ result, .returned result ∉ h) ∧ task = .stopped ∧
      .deregisterSent ∈ h ∧ .aborted ∈ h
  | .returned _ => task = .stopped
  | _ => Live task h

def Orderly (s : World) : Prop := Released s.history ∧ Assertion s.task s.history s.point

theorem Live.cons {task next : RenewTask} {h : List Event} {e : Event} (live : Live task h)
    (running : next ≠ .dying) (kept : e ≠ .aborted) (stays : ∀ result, e ≠ .returned result) :
    Live next (e :: h) := by
  refine ⟨running, fun member => ?_, fun result member => ?_⟩
  · rcases List.mem_cons.mp member with same | earlier
    · exact kept same.symm
    · exact live.unaborted earlier
  · rcases List.mem_cons.mp member with same | earlier
    · exact stays result same.symm
    · exact live.unreturned result earlier

theorem renewStep_cases {task next : RenewTask} {move : RenewMove} {e : Event}
    (taken : renewStep task move = some (next, e)) :
    task ≠ .stopped ∧ next ≠ .dying ∧ (e = .quiet ∨ e = .renewSent) := by
  unfold renewStep at taken
  split at taken <;> cases taken <;> simp

theorem orderly_renew {s : World} {move : RenewMove} {next : RenewTask} {e : Event}
    (held : Orderly s) (taken : renewStep s.task move = some (next, e)) :
    Orderly ⟨s.point, next, e :: s.history⟩ := by
  obtain ⟨going, running, event⟩ := renewStep_cases taken
  obtain ⟨released, known⟩ := held
  have kept : e ≠ .aborted := by rcases event with rfl | rfl <;> exact nofun
  have stays : ∀ result, e ≠ .returned result := by rcases event with rfl | rfl <;> exact nofun
  -- Where the task is already stopped it has no step left.
  have still : (∀ result, .returned result ∉ s.history) ∧
      Assertion next (e :: s.history) s.point := by
    cases point : s.point with
    | leave result =>
      rw [point] at known
      exact absurd known.2.1 going
    | returned result =>
      rw [point] at known
      exact absurd known going
    | deregistering =>
      rw [point] at known
      exact ⟨known.1.unreturned, known.1.cons running kept stays, List.mem_cons_of_mem _ known.2⟩
    | abort result =>
      rw [point] at known
      exact ⟨known.1.unreturned, known.1.cons running kept stays,
        List.mem_cons_of_mem _ known.2.1, List.mem_cons_of_mem _ known.2.2⟩
    | spawn | bind | serving | draining | deregister =>
      rw [point] at known
      exact ⟨known.unreturned, known.cons running kept stays⟩
  refine ⟨?_, still.2⟩
  rcases event with rfl | rfl
  · exact released
  · exact ⟨still.1, released⟩

theorem orderly_helper {drainTimeout : Option Duration} {s : World} {move : HelperMove}
    {next : Point} {e : Event} (held : Orderly s)
    (fine : NoTransportError s (.helper move)) (awaits : AbortAtAwait s (.helper move))
    (taken : helperStep drainTimeout s.point move = some (next, e)) :
    Orderly ⟨next, taskAfter s.task move, e :: s.history⟩ := by
  obtain ⟨point, task, h⟩ := s
  obtain ⟨released, known⟩ := held
  simp only at released known taken ⊢
  unfold helperStep at taken
  split at taken
  case h_1 =>
    cases taken
    exact ⟨released, known.cons nofun nofun nofun⟩
  -- The three early returns are what the condition rules out.
  case h_3 | h_5 | h_8 => exact absurd fine nofun
  case h_2 | h_4 | h_6 | h_7 =>
    cases taken
    exact ⟨released, known.cons known.running nofun nofun⟩
  case h_9 =>
    split at taken
    · cases taken
      exact ⟨released, known.cons known.running nofun nofun⟩
    · cases taken
  case h_10 =>
    cases taken
    exact ⟨released, known.cons known.running nofun nofun, List.mem_cons_self⟩
  -- Deregistered, with or without success.
  case h_11 | h_12 =>
    cases taken
    exact ⟨released, known.1.cons known.1.running nofun nofun, List.mem_cons_of_mem _ known.2,
      List.mem_cons_self⟩
  -- The abort: a task at an await stops there.
  case h_13 =>
    cases taken
    obtain ⟨live, sent, done⟩ := known
    have stops : task.abort = .stopped := by
      cases task with
      | woken failures => exact absurd rfl (awaits failures)
      | dying => exact absurd rfl live.running
      | _ => rfl
    refine ⟨⟨done, released⟩, fun result member => ?_, stops, List.mem_cons_of_mem _ sent,
      List.mem_cons_self⟩
    rcases List.mem_cons.mp member with same | earlier
    · cases same
    · exact live.unreturned result earlier
  case h_14 =>
    cases taken
    obtain ⟨_, stopped, sent, aborted⟩ := known
    exact ⟨⟨sent, aborted, released⟩, stopped⟩
  case h_15 => cases taken

theorem orderly_step (drainTimeout : Option Duration) (s : World) (a : Action) (t : World)
    (held : Orderly s) (awaits : AbortAtAwait s a) (fine : NoTransportError s a)
    (taken : serveStep drainTimeout s a = some t) : Orderly t := by
  cases a with
  | helper move =>
    obtain ⟨⟨next, e⟩, moved, rfl⟩ := Option.map_eq_some_iff.mp taken
    exact orderly_helper held fine awaits moved
  | renew move =>
    obtain ⟨⟨next, e⟩, moved, rfl⟩ := Option.map_eq_some_iff.mp taken
    exact orderly_renew held moved

theorem early_return_keeps_lease (drainTimeout : Option Duration) (s : World) (a : Action)
    (t : World) (held : Orderly s) (failed : ¬ NoTransportError s a)
    (taken : serveStep drainTimeout s a = some t) : ¬ Released t.history := by
  obtain ⟨point, task, h⟩ := s
  have known := held.2
  cases a with
  | renew move => exact absurd trivial failed
  | helper move =>
    obtain ⟨⟨next, e⟩, moved, rfl⟩ := Option.map_eq_some_iff.mp taken
    simp only at moved known ⊢
    unfold helperStep at moved
    split at moved
    case h_3 | h_5 | h_8 =>
      cases moved
      exact fun released => known.unaborted released.2.1
    case h_2 | h_4 | h_7 => exact absurd rfl failed
    case h_15 => cases moved
    all_goals exact absurd trivial failed

/-- Provided an abort finds the renew task at an await, the lease is given up in order, in
every state of a run of the helper, if and only if neither the bind, nor the serve future,
nor the drain ends with an error in that run. -/
theorem lease_released_iff_no_transport_error (drainTimeout : Option Duration)
    (as : List Action) (s : World)
    (awaits : Along (serveStep drainTimeout) AbortAtAwait .start as)
    (ends : run (serveStep drainTimeout) .start as = some s) :
    Throughout (serveStep drainTimeout) (fun s => Released s.history) .start as ↔
      Along (serveStep drainTimeout) NoTransportError .start as :=
  throughout_iff_along_given (serveStep drainTimeout) AbortAtAwait NoTransportError _ Orderly
    (fun _ held => held.1) (orderly_step drainTimeout) (early_return_keeps_lease drainTimeout)
    as .start s ⟨trivial, nofun, nofun, nofun⟩ awaits ends

/- One renewal, a signal, a drain that times out, a deregister that fails. -/
def forcedShutdown : List Action :=
  [.helper .spawned, .helper (.bound (.ok ())), .renew .wake, .renew .send, .renew (.reply true),
    .helper .signalled, .helper .drainTimedOut, .helper .sendDeregister,
    .helper (.deregistered (.error "unavailable")), .helper .abort, .helper .leave]

theorem lease_released_after_forced_shutdown :
    ∃ s, run (serveStep (some (.fromSecs 5))) .start forcedShutdown = some s ∧
      s.point = .returned (.error (.discoveryDeregister "unavailable")) ∧
      Throughout (serveStep (some (.fromSecs 5))) (fun s => Released s.history) .start
        forcedShutdown := by
  have awaits : Along (serveStep (some (.fromSecs 5))) AbortAtAwait .start forcedShutdown := by
    decide
  exact ⟨_, rfl, rfl, (lease_released_iff_no_transport_error _ forcedShutdown _ awaits rfl).mpr
    (by decide)⟩

/- The address is in use: the helper returns at once and the renew task goes on. -/
def bindFails : List Action :=
  [.helper .spawned, .helper (.bound (.error "address in use")), .renew .wake, .renew .send]

theorem lease_renewed_after_return :
    ∃ s, run (serveStep none) .start bindFails = some s ∧
      s.history = [.renewSent, .quiet, .returned (.error (.transport "address in use")), .quiet] ∧
      ¬ Released s.history := by
  refine ⟨_, rfl, rfl, fun released => ?_⟩
  exact released.1 _ (List.mem_cons_of_mem _ List.mem_cons_self)

end SdkworkRpc.Server
