import SdkworkRpc.Server.ServeLifecycle

/-! What is still sent for the instance once `serve_with_discovery_lifecycle` has returned.
The early returns drop the handle of the renew task, which detaches it; the return at the end
comes after the abort. -/
namespace SdkworkRpc.Server

open Machine Run

def RenewTask.going : RenewTask → Bool
  | .sleeping _ | .woken _ | .renewing _ => true
  | _ => false

def RenewTask.aborted : RenewTask → Bool
  | .dying | .stopped => true
  | _ => false

def RenewTask.last : RenewTask → Nat
  | .dying => 1
  | _ => 0

def transportError : ServeResult → Bool
  | .error (.transport _) => true
  | _ => false

def renewals (s : World) : Nat := s.history.count .renewSent

def deregisterAsked (s : World) : Bool := s.history.contains .deregisterSent

/-- The task, and whether a deregistration was asked for, where the helper stands. A task is
aborted only after it was, and neither comes before a transport error. -/
def Fate (task : RenewTask) (asked : Bool) : Point → Prop
  | .spawn => task = .unspawned ∧ asked = false
  | .bind | .serving | .draining | .deregister => task.going = true ∧ asked = false
  | .deregistering => task.going = true ∧ asked = true
  | .abort result => task.going = true ∧ asked = true ∧ transportError result = false
  | .leave result => task.aborted = true ∧ asked = true ∧ transportError result = false
  | .returned result =>
    if transportError result = true then task.going = true ∧ asked = false
    else task.aborted = true ∧ asked = true

theorem renewStep_kept {task next : RenewTask} {move : RenewMove} {e : Event}
    (taken : renewStep task move = some (next, e)) :
    task ≠ .unspawned ∧ next.going = task.going ∧ next.aborted = task.aborted ∧
      e ≠ .deregisterSent := by
  unfold renewStep at taken
  split at taken <;> cases taken <;> simp [RenewTask.going, RenewTask.aborted]

theorem fate_renew {task next : RenewTask} {move : RenewMove} {e : Event} {asked : Bool}
    {point : Point} (held : Fate task asked point)
    (taken : renewStep task move = some (next, e)) : Fate next asked point := by
  obtain ⟨spawned, going, aborted, _⟩ := renewStep_kept taken
  cases point with
  | spawn => exact absurd held.1 spawned
  | _ =>
    unfold Fate at held ⊢
    simpa only [going, aborted] using held

theorem abort_aborted {task : RenewTask} : task.abort.aborted = true := by
  cases task <;> rfl

theorem fate_helper {drainTimeout : Option Duration} {task : RenewTask} {asked : Bool}
    {point next : Point} {move : HelperMove} {e : Event} (held : Fate task asked point)
    (taken : helperStep drainTimeout point move = some (next, e)) :
    Fate (taskAfter task move) (.deregisterSent == e || asked) next := by
  unfold helperStep at taken
  split at taken
  case h_1 =>
    cases taken
    exact ⟨rfl, held.2⟩
  case h_9 =>
    split at taken
    · cases taken
      exact held
    · cases taken
  case h_10 =>
    cases taken
    exact ⟨held.1, rfl⟩
  case h_11 | h_12 =>
    cases taken
    exact ⟨held.1, held.2, rfl⟩
  case h_13 =>
    cases taken
    exact ⟨abort_aborted, held.2⟩
  case h_14 result =>
    cases taken
    obtain ⟨aborted, sent, fine⟩ := held
    simp [Fate, fine, taskAfter, aborted, sent]
  case h_15 => cases taken
  -- The early returns, and the moves up to the deregistration: nothing is asked, nothing ends.
  all_goals
    cases taken
    exact held

def Fated (s : World) : Prop := Fate s.task (deregisterAsked s) s.point

theorem fated_step (drainTimeout : Option Duration) (s : World) (a : Action) (t : World)
    (held : Fated s) (taken : serveStep drainTimeout s a = some t) : Fated t := by
  cases a with
  | helper move =>
    obtain ⟨⟨next, e⟩, moved, rfl⟩ := Option.map_eq_some_iff.mp taken
    have kept := fate_helper held moved
    simpa only [Fated, deregisterAsked, List.contains_cons] using kept
  | renew move =>
    obtain ⟨⟨next, e⟩, moved, rfl⟩ := Option.map_eq_some_iff.mp taken
    have other := (renewStep_kept moved).2.2.2
    have kept := fate_renew held moved
    simpa [Fated, deregisterAsked, List.contains_cons, other.symm] using kept

theorem returned_still (drainTimeout : Option Duration) (result : ServeResult)
    (move : HelperMove) : helperStep drainTimeout (.returned result) move = none := by
  cases move <;> rfl

theorem returned_step {drainTimeout : Option Duration} {result : ServeResult} {s t : World}
    {a : Action} (returned : s.point = .returned result)
    (taken : serveStep drainTimeout s a = some t) :
    ∃ move next e, renewStep s.task move = some (next, e) ∧
      t = ⟨.returned result, next, e :: s.history⟩ := by
  cases a with
  | helper move =>
    obtain ⟨_, moved, _⟩ := Option.map_eq_some_iff.mp taken
    rw [returned, returned_still] at moved
    cases moved
  | renew move =>
    obtain ⟨⟨next, e⟩, moved, rfl⟩ := Option.map_eq_some_iff.mp taken
    exact ⟨move, next, e, moved, by rw [returned]⟩

theorem aborted_step {task next : RenewTask} {move : RenewMove} {e : Event}
    (aborted : task.aborted = true) (taken : renewStep task move = some (next, e)) :
    task = .dying ∧ next = .stopped ∧ e = .renewSent := by
  unfold renewStep at taken
  split at taken <;> cases taken <;> first | exact ⟨rfl, rfl, rfl⟩ | cases aborted

theorem aborted_run {drainTimeout : Option Duration} {result : ServeResult} {s t : World}
    {more : List Action} (returned : s.point = .returned result)
    (aborted : s.task.aborted = true) (ends : run (serveStep drainTimeout) s more = some t) :
    renewals t + t.task.last ≤ renewals s + s.task.last := by
  refine (run_preserves (serveStep drainTimeout)
    (fun u => u.point = .returned result ∧ u.task.aborted = true ∧
      renewals u + u.task.last ≤ renewals s + s.task.last)
    ?_ more s t ⟨returned, aborted, Nat.le_refl _⟩ ends).2.2
  intro u a v ⟨at_end, ended, bounded⟩ taken
  obtain ⟨move, next, e, moved, rfl⟩ := returned_step at_end taken
  obtain ⟨dying, rfl, rfl⟩ := aborted_step ended moved
  refine ⟨rfl, rfl, ?_⟩
  rw [dying] at bounded
  simpa [renewals, RenewTask.last] using bounded

theorem going_sends (drainTimeout : Option Duration) {s : World} (going : s.task.going = true) :
    ∃ more t, run (serveStep drainTimeout) s more = some t ∧ t.task.going = true ∧
      renewals t = renewals s + 1 := by
  obtain ⟨point, task, h⟩ := s
  cases task with
  | sleeping failures =>
    exact ⟨[.renew .wake, .renew .send], _, rfl, rfl, by simp [renewals]⟩
  | woken failures => exact ⟨[.renew .send], _, rfl, rfl, by simp [renewals]⟩
  | renewing failures =>
    exact ⟨[.renew (.reply true), .renew .wake, .renew .send], _, rfl, rfl, by simp [renewals]⟩
  | unspawned | dying | stopped => cases going

theorem going_sends_all (drainTimeout : Option Duration) {s : World}
    (going : s.task.going = true) (n : Nat) :
    ∃ more t, run (serveStep drainTimeout) s more = some t ∧ t.task.going = true ∧
      renewals t = renewals s + n := by
  induction n with
  | zero => exact ⟨[], s, rfl, going, rfl⟩
  | succ n ih =>
    obtain ⟨more, t, ends, still, count⟩ := ih
    obtain ⟨again, u, ends', still', count'⟩ := going_sends drainTimeout still
    exact ⟨more ++ again, u, run_append ends ends', still', by omega⟩

theorem fated_run {drainTimeout : Option Duration} {s : World} {as : List Action}
    (ends : run (serveStep drainTimeout) .start as = some s) : Fated s :=
  run_preserves (serveStep drainTimeout) Fated (fated_step drainTimeout) as .start s ⟨rfl, rfl⟩ ends

theorem returned_run {drainTimeout : Option Duration} {result : ServeResult} {s t : World}
    {more : List Action} (returned : s.point = .returned result)
    (ends : run (serveStep drainTimeout) s more = some t) : t.point = .returned result := by
  refine run_preserves (serveStep drainTimeout) (·.point = .returned result) ?_ more s t returned
    ends
  intro u a v at_end taken
  obtain ⟨_, _, _, _, rfl⟩ := returned_step at_end taken
  rfl

theorem fate_returned {drainTimeout : Option Duration} {result : ServeResult} {s : World}
    {as : List Action} (ends : run (serveStep drainTimeout) .start as = some s)
    (returned : s.point = .returned result) :
    if transportError result = true then s.task.going = true ∧ deregisterAsked s = false
    else s.task.aborted = true ∧ deregisterAsked s = true := by
  have fated := fated_run ends
  rwa [Fated, returned] at fated

/-- What becomes of the registration once the helper has returned, in every run and under every
later order of steps. After a transport error no deregistration was or will be asked for, and
the task left behind can send any number of renewals. After any other result one was asked for,
and at most one renewal is still sent. -/
theorem registration_after_return (drainTimeout : Option Duration) (as : List Action) (s : World)
    (result : ServeResult) (ends : run (serveStep drainTimeout) .start as = some s)
    (returned : s.point = .returned result) :
    (transportError result = true →
      (∀ more t, run (serveStep drainTimeout) s more = some t → deregisterAsked t = false) ∧
      ∀ n, ∃ more t, run (serveStep drainTimeout) s more = some t ∧
        renewals t = renewals s + n) ∧
    (transportError result = false →
      deregisterAsked s = true ∧
      ∀ more t, run (serveStep drainTimeout) s more = some t → renewals t ≤ renewals s + 1) := by
  have fate := fate_returned ends returned
  refine ⟨fun failed => ?_, fun fine => ?_⟩
  · rw [if_pos failed] at fate
    refine ⟨fun more t further => ?_, fun n => ?_⟩
    · have later := fate_returned (run_append ends further) (returned_run returned further)
      rw [if_pos failed] at later
      exact later.2
    · obtain ⟨more, t, further, _, count⟩ := going_sends_all drainTimeout fate.1 n
      exact ⟨more, t, further, count⟩
  · rw [fine, if_neg Bool.false_ne_true] at fate
    refine ⟨fate.2, fun more t further => ?_⟩
    have bound := aborted_run returned fate.1 further
    have one : s.task.last ≤ 1 := by cases s.task <;> simp [RenewTask.last]
    omega

def serveFails : List Action :=
  [.helper .spawned, .helper (.bound (.ok ())), .renew .wake, .renew .send,
    .helper (.served (.error "connection reset"))]

theorem registration_after_failed_serve :
    ∃ s, run (serveStep none) .start serveFails = some s ∧
      s.point = .returned (.error (.transport "connection reset")) ∧
      ∀ n, ∃ more t, run (serveStep none) s more = some t ∧ renewals t = 1 + n :=
  ⟨_, rfl, rfl, ((registration_after_return none serveFails _ _ rfl rfl).1 rfl).2⟩

/- The abort comes while the task is being polled; the renewal is sent after the return. -/
example : ∃ s, run (serveStep none) .start
    [.helper .spawned, .helper (.bound (.ok ())), .helper .signalled, .helper (.drained (.ok ())),
      .helper .sendDeregister, .helper (.deregistered (.ok ())), .renew .wake, .helper .abort,
      .helper .leave, .renew .send] = some s ∧ renewals s = 1 := ⟨_, rfl, rfl⟩

end SdkworkRpc.Server
