import SdkworkRpc.CircuitBreaker.OpenedAt
import SdkworkRpc.CircuitBreaker.Sequential
import SdkworkRpc.Library.Observation

/-! Asking for the state leaves no trace. `state()` may move an Open breaker to HalfOpen,
but only where the next operation would have done so itself. -/
namespace SdkworkRpc.CircuitBreaker

open Machine Run Observation

/-- A call at a reading of the clock. A spare call is one that another history may do
without; only `state()` is ever spare. -/
structure TimedCall where
  time : Nat
  op : Operation
  spare : Bool
  harmless : spare = true → op = .state
  deriving DecidableEq

def TimedCall.kept (c : TimedCall) : Bool := !c.spare

def Breaker.atTime (b : Breaker) (time : Nat) : Breaker := b.after (time - b.clock)

def timedStep (cfg : CircuitBreakerConfig) (b : Breaker) (c : TimedCall) : Breaker × Answer :=
  perform cfg (b.atTime c.time) c.op

def waits : Nat → List TimedCall → List Call
  | _, [] => []
  | now, c :: rest => ⟨c.time - now, c.op⟩ :: waits c.time rest

/-- From the given time on, both are the same once refreshed. -/
def SameRefreshed (cfg : CircuitBreakerConfig) (now : Nat) (b c : Breaker) : Prop :=
  b.clock ≤ now ∧ c.clock ≤ now ∧
    ∀ later, now ≤ later → refreshState cfg (b.atTime later) = refreshState cfg (c.atTime later)

theorem Breaker.atTime_clock {b : Breaker} {time : Nat} (later : b.clock ≤ time) :
    (b.atTime time).clock = time :=
  Nat.add_sub_of_le later

theorem Breaker.atTime_atTime {b : Breaker} {time later : Nat} (follows : b.clock ≤ time)
    (after : time ≤ later) : (b.atTime time).atTime later = b.atTime later := by
  have sum : b.clock + (time - b.clock) + (later - (b.clock + (time - b.clock))) =
      b.clock + (later - b.clock) := by omega
  simp only [Breaker.atTime, Breaker.after, sum]

/-- A recovery timeout that has passed stays passed, so refreshing early changes nothing
for whoever refreshes later. -/
theorem refreshState_early (cfg : CircuitBreakerConfig) {b : Breaker} {later : Nat}
    (after : b.clock ≤ later) :
    refreshState cfg ((refreshState cfg b).atTime later) = refreshState cfg (b.atTime later) := by
  obtain ⟨same, _⟩ | ⟨isOpen, stored, passed, moved⟩ := refreshState_cases cfg b
  · rw [same]
  · obtain ⟨_, early⟩ | ⟨_, _, _, late⟩ := refreshState_cases cfg (b.atTime later)
    · have waiting : (b.atTime later).clock - b.openedAtNanos < cfg.recoveryTimeout.nanos :=
        (early isOpen).resolve_left stored
      rw [Breaker.atTime_clock after] at waiting
      omega
    · rw [moved, late]
      rfl

theorem perform_refreshed {cfg : CircuitBreakerConfig} {b c : Breaker} (op : Operation)
    (same : refreshState cfg b = refreshState cfg c) : perform cfg b op = perform cfg c op := by
  cases op with
  | state => simp only [perform, same]
  | allowRequest => simp only [perform, allowRequest, same]
  | recordSuccess => simp only [perform, recordSuccess, same]
  | recordFailure => simp only [perform, recordFailure, same]

theorem perform_clock (cfg : CircuitBreakerConfig) (b : Breaker) (op : Operation) :
    (perform cfg b op).1.clock = b.clock := by
  have refreshed := refreshState_clock cfg b
  cases op with
  | state => exact refreshed
  | recordSuccess => exact refreshed
  | allowRequest =>
    simp only [perform, allowRequest]
    cases (refreshState cfg b).state with
    | closed => exact refreshed
    | opened => exact refreshed
    | halfOpen =>
      simp only [acquireHalfOpenProbe]
      split <;> exact refreshed
  | recordFailure =>
    obtain ⟨_, opened | counted⟩ | ⟨_, _, _, counted⟩ := recordFailure_cases cfg b
    · rw [perform, opened]
      exact refreshed
    · rw [perform, counted]
      exact refreshed
    · rw [perform, counted]
      exact refreshed

theorem timedStep_clock {cfg : CircuitBreakerConfig} {b : Breaker} {c : TimedCall}
    (later : b.clock ≤ c.time) : (timedStep cfg b c).1.clock = c.time := by
  rw [timedStep, perform_clock, Breaker.atTime_clock later]

theorem state_unwinding (cfg : CircuitBreakerConfig) :
    Unwinding (timedStep cfg) TimedCall.kept TimedCall.time TimedCall.time
      (SameRefreshed cfg) where
  hidden := by
    intro now b c call ⟨before, beside, same⟩ begins _ spare
    have asked : call.op = .state := call.harmless (by simpa [TimedCall.kept] using spare)
    have moved : (timedStep cfg b call).1 = refreshState cfg (b.atTime call.time) := by
      rw [timedStep, asked, perform]
    refine ⟨(timedStep_clock (before.trans begins)).le, beside.trans begins,
      fun later after => ?_⟩
    have clock := Breaker.atTime_clock (before.trans begins)
    rw [moved, refreshState_early cfg (by rw [clock]; exact after),
      Breaker.atTime_atTime (before.trans begins) after]
    exact same later (begins.trans after)
  alike := by
    intro now b c call ⟨before, beside, same⟩ begins _ _
    have equal : timedStep cfg b call = timedStep cfg c call :=
      perform_refreshed call.op (same call.time begins)
    have clock : (timedStep cfg c call).1.clock = call.time :=
      timedStep_clock (beside.trans begins)
    rw [equal]
    exact ⟨rfl, clock.le, clock.le, fun _ _ => rfl⟩

/-- The answers of a timed history are those of the session that waits between its calls. -/
theorem timed_session (cfg : CircuitBreakerConfig) (history : List TimedCall) (s : Session)
    (timed : Timed TimedCall.time TimedCall.time s.breaker.clock history) :
    ∃ t, Run.run (callStep cfg) s (waits s.breaker.clock history) = some t ∧
      t.history.map (·.answer) =
        (observed (timedStep cfg) (fun _ => true) s.breaker history).reverse ++
          s.history.map (·.answer) := by
  induction history generalizing s with
  | nil => exact ⟨s, rfl, rfl⟩
  | cons c rest ih =>
    obtain ⟨later, _, timed⟩ := timed
    let u := s.call cfg ⟨c.time - s.breaker.clock, c.op⟩
    have clock : u.breaker.clock = c.time := timedStep_clock later
    obtain ⟨t, ends, answers⟩ := ih u (by rw [clock]; exact timed)
    refine ⟨t, ?_, ?_⟩
    · rw [clock] at ends
      exact ends
    · rw [answers, observed, if_pos rfl, List.reverse_cons, List.append_assoc]
      rfl

/-- Two histories that differ in spare `state()` calls give every other call the same
answer. -/
theorem state_calls_leave_no_trace (cfg : CircuitBreakerConfig) (b : Breaker)
    (first second : List TimedCall)
    (before : Timed TimedCall.time TimedCall.time b.clock first)
    (after : Timed TimedCall.time TimedCall.time b.clock second)
    (agree : first.filter TimedCall.kept = second.filter TimedCall.kept) :
    observed (timedStep cfg) TimedCall.kept b first =
      observed (timedStep cfg) TimedCall.kept b second :=
  observed_congr (state_unwinding cfg) ⟨Nat.le_refl _, Nat.le_refl _, fun _ _ => rfl⟩ before after
    agree

def TimedCall.needed (time : Nat) (op : Operation) : TimedCall := ⟨time, op, false, nofun⟩

def TimedCall.asks (time : Nat) : TimedCall := ⟨time, .state, true, fun _ => rfl⟩

/- The breaker opens at 1 and may be tried again from 11 on. One history asks for the state
while it is open and once it has recovered, the other asks only after the trial. -/
def watchedCalls : List TimedCall :=
  [.needed 1 .recordFailure, .asks 5, .asks 15, .needed 20 .allowRequest,
    .needed 21 .allowRequest, .needed 22 .state]

def unwatchedCalls : List TimedCall :=
  [.needed 1 .recordFailure, .needed 20 .allowRequest, .needed 21 .allowRequest, .asks 21,
    .needed 22 .state]

theorem watched_trial :
    observed (timedStep quickConfig) TimedCall.kept new watchedCalls =
        observed (timedStep quickConfig) TimedCall.kept new unwatchedCalls ∧
      observed (timedStep quickConfig) TimedCall.kept new unwatchedCalls =
        [.recorded, .allowed true, .allowed false, .state .halfOpen] :=
  ⟨state_calls_leave_no_trace quickConfig new watchedCalls unwatchedCalls
    (by simp [Timed, watchedCalls, TimedCall.needed, TimedCall.asks, new])
    (by simp [Timed, unwatchedCalls, TimedCall.needed, TimedCall.asks, new])
    (by decide), by decide⟩

end SdkworkRpc.CircuitBreaker
