import SdkworkRpc.CircuitBreaker.SequentialLaw

/-! Requests in flight when the breaker opens. A request is admitted, stays in flight,
and reports its outcome once, in any order with the others; the report acts on whatever
state the breaker is in by then. -/
namespace SdkworkRpc.CircuitBreaker

open Machine Run

def openings : List Record → List Nat
  | [] => []
  | r :: h => if r.opened = true then r.time :: openings h else openings h

/-- A session and the requests it has admitted, numbered in the order of admission. -/
structure Traffic where
  session : Session
  admitted : Nat
  inFlight : List Nat
  deriving DecidableEq

def Traffic.start : Traffic := ⟨.start, 0, []⟩

inductive Exchange where
  | request (wait : Nat)
  | report (wait : Nat) (ticket : Nat) (succeeded : Bool)
  | observe (wait : Nat)
  deriving DecidableEq, Repr

def Exchange.call : Exchange → Call
  | .request wait => ⟨wait, .allowRequest⟩
  | .report wait _ succeeded => ⟨wait, if succeeded = true then .recordSuccess else .recordFailure⟩
  | .observe wait => ⟨wait, .state⟩

/-- An outcome is reported for a request in flight, which then is in flight no more. -/
def trafficStep (cfg : CircuitBreakerConfig) (s : Traffic) (e : Exchange) : Option Traffic :=
  match e with
  | .request wait =>
    if s.session.allows cfg wait = true then
      some ⟨s.session.call cfg e.call, s.admitted + 1, s.admitted :: s.inFlight⟩
    else some ⟨s.session.call cfg e.call, s.admitted, s.inFlight⟩
  | .report _ ticket _ =>
    if ticket ∈ s.inFlight then
      some ⟨s.session.call cfg e.call, s.admitted, s.inFlight.erase ticket⟩
    else none
  | .observe _ => some ⟨s.session.call cfg e.call, s.admitted, s.inFlight⟩

theorem trafficStep_session {cfg : CircuitBreakerConfig} {s t : Traffic} {e : Exchange}
    (taken : trafficStep cfg s e = some t) : t.session = s.session.call cfg e.call := by
  cases e <;> simp only [trafficStep] at taken
  case observe wait =>
    cases Option.some.inj taken
    rfl
  case request wait =>
    split at taken <;> cases Option.some.inj taken <;> rfl
  case report wait ticket succeeded =>
    split at taken
    · cases Option.some.inj taken
      rfl
    · cases taken

/-- Whenever an `allow_request` comes, it is answered with true only once the recovery
timeout has passed since every opening. -/
def FailFast (cfg : CircuitBreakerConfig) (s : Traffic) : Prop :=
  ∀ wait, s.session.allows cfg wait = true → ∀ t ∈ openings s.session.history,
    t + cfg.recoveryTimeout.nanos ≤ s.session.breaker.clock + wait

def OpeningFits (cfg : CircuitBreakerConfig) (s : Traffic) (e : Exchange) : Prop :=
  opens cfg (s.session.breaker.after e.call.wait) e.call.op = true →
    s.session.breaker.clock + e.call.wait < 2 ^ 64

def SuccessAfterRecovery (cfg : CircuitBreakerConfig) (s : Traffic) (e : Exchange) : Prop :=
  e.call.op = .recordSuccess → ∀ t ∈ openings s.session.history,
    t + cfg.recoveryTimeout.nanos ≤ s.session.breaker.clock + e.call.wait

instance (cfg : CircuitBreakerConfig) (s : Traffic) (e : Exchange) :
    Decidable (OpeningFits cfg s e) := inferInstanceAs (Decidable (_ → _))

instance (cfg : CircuitBreakerConfig) (s : Traffic) (e : Exchange) :
    Decidable (SuccessAfterRecovery cfg s e) := inferInstanceAs (Decidable (_ → ∀ _ ∈ _, _))

/-- Only an Open breaker may be within the recovery timeout of an opening, and then the
time it holds is at least as late as every opening. -/
structure Sheltered (cfg : CircuitBreakerConfig) (b : Breaker) (h : List Record) : Prop where
  past : ∀ t ∈ openings h, t ≤ b.clock
  opened : b.state = .opened → b.openedAtNanos ≤ b.clock ∧ ∀ t ∈ openings h, t ≤ b.openedAtNanos
  recovered : b.state ≠ .opened → ∀ t ∈ openings h, t + cfg.recoveryTimeout.nanos ≤ b.clock

section Steps

variable {cfg : CircuitBreakerConfig} {b : Breaker} {h : List Record}

theorem sheltered_after (held : Sheltered cfg b h) (wait : Nat) :
    Sheltered cfg (b.after wait) h := by
  refine ⟨fun t ht => ?_, fun isOpen => ?_, fun other t ht => ?_⟩
  · exact Nat.le_add_right_of_le (held.past t ht)
  · have opened := held.opened isOpen
    exact ⟨Nat.le_add_right_of_le opened.1, opened.2⟩
  · exact Nat.le_add_right_of_le (held.recovered other t ht)

theorem sheltered_refresh (held : Sheltered cfg b h) : Sheltered cfg (refreshState cfg b) h := by
  rcases refreshState_cases cfg b with ⟨same, _⟩ | ⟨isOpen, _, elapsed, entered⟩
  · rw [same]
    exact held
  · obtain ⟨past, latest⟩ := held.opened isOpen
    rw [entered]
    refine ⟨held.past, fun c => (by cases c), fun _ t ht => ?_⟩
    have := latest t ht
    simp only
    omega

theorem sheltered_kept {found next : Breaker} (held : Sheltered cfg found h) (r : Record)
    (quiet : r.opened = false) (state : next.state = found.state)
    (stored : next.openedAtNanos = found.openedAtNanos) (clock : next.clock = found.clock) :
    Sheltered cfg next (r :: h) := by
  have same : openings (r :: h) = openings h := by simp [openings, quiet]
  constructor
  · rw [same, clock]; exact held.past
  · rw [same, state, stored, clock]; exact held.opened
  · rw [same, state, clock]; exact held.recovered

theorem sheltered_open {found : Breaker} (held : Sheltered cfg found h) (r : Record)
    (ran : r.opened = true) (time : r.time = found.clock) (fits : found.clock < 2 ^ 64) :
    Sheltered cfg (openNow found) (r :: h) := by
  have stored : (openNow found).openedAtNanos = found.clock := Nat.mod_eq_of_lt fits
  have all : ∀ t ∈ openings (r :: h), t ≤ found.clock := by
    intro t ht
    simp only [openings, ran, if_true, List.mem_cons, time] at ht
    rcases ht with rfl | earlier
    · exact le_refl _
    · exact held.past t earlier
  refine ⟨all, fun _ => ?_, fun other => absurd rfl other⟩
  rw [stored]
  exact ⟨le_refl _, all⟩

theorem acquireHalfOpenProbe_keeps (cfg : CircuitBreakerConfig) (found : Breaker) :
    (acquireHalfOpenProbe cfg found).1.state = found.state ∧
      (acquireHalfOpenProbe cfg found).1.openedAtNanos = found.openedAtNanos ∧
      (acquireHalfOpenProbe cfg found).1.clock = found.clock := by
  unfold acquireHalfOpenProbe
  split <;> exact ⟨rfl, rfl, rfl⟩

theorem sheltered_call (s : Session) (c : Call) (held : Sheltered cfg s.breaker s.history)
    (fits : opens cfg (s.breaker.after c.wait) c.op = true → s.breaker.clock + c.wait < 2 ^ 64)
    (recovered : c.op = .recordSuccess → ∀ t ∈ openings s.history,
      t + cfg.recoveryTimeout.nanos ≤ s.breaker.clock + c.wait) :
    Sheltered cfg (s.call cfg c).breaker (s.call cfg c).history := by
  obtain ⟨wait, op⟩ := c
  have found := sheltered_refresh (sheltered_after held wait)
  have clock := refreshState_clock cfg (s.breaker.after wait)
  cases op with
  | state => exact sheltered_kept found _ rfl rfl rfl rfl
  | allowRequest =>
    simp only [Session.call, perform, allowRequest]
    split
    · exact sheltered_kept found _ rfl rfl rfl rfl
    · exact sheltered_kept found _ rfl rfl rfl rfl
    · obtain ⟨state, stored, time⟩ := acquireHalfOpenProbe_keeps cfg
        (refreshState cfg (s.breaker.after wait))
      exact sheltered_kept found _ rfl state stored time
  | recordSuccess =>
    have now : (s.call cfg ⟨wait, .recordSuccess⟩).breaker.clock = s.breaker.clock + wait := clock
    have past := recovered rfl
    refine ⟨fun t ht => ?_, fun c => (by cases c), fun _ t ht => ?_⟩
    · rw [now]
      exact Nat.le_trans (Nat.le_add_right ..) (past t ht)
    · rw [now]
      exact past t ht
  | recordFailure =>
    simp only [Session.call, perform]
    have counting : Sheltered cfg (countFailure (refreshState cfg (s.breaker.after wait)))
        s.history := ⟨found.past, found.opened, found.recovered⟩
    rcases recordFailure_cases cfg (s.breaker.after wait) with
      ⟨ran, opened⟩ | ⟨quiet, _, _, counted⟩
    · have inRange := fits ran
      rw [show s.breaker.clock + wait = (s.breaker.after wait).clock from rfl, ← clock] at inRange
      rcases opened with opened | opened <;> rw [opened]
      · exact sheltered_open found _ ran clock.symm inRange
      · exact sheltered_open counting _ ran clock.symm inRange
    · rw [counted]
      exact sheltered_kept counting _ quiet rfl rfl rfl

end Steps

theorem sheltered_failFast (cfg : CircuitBreakerConfig) (s : Traffic)
    (held : Sheltered cfg s.session.breaker s.session.history) : FailFast cfg s := by
  intro wait allowed
  have found := sheltered_refresh (sheltered_after held wait)
  have notOpen : (refreshState cfg (s.session.breaker.after wait)).state ≠ .opened := by
    intro isOpen
    simp [Session.allows, allowRequest, isOpen] at allowed
  intro t ht
  have := found.recovered notOpen t ht
  rw [refreshState_clock] at this
  exact this

theorem early_success_admits (cfg : CircuitBreakerConfig) (s t : Traffic) (e : Exchange)
    (early : ¬ SuccessAfterRecovery cfg s e) (taken : trafficStep cfg s e = some t) :
    ¬ FailFast cfg t := by
  obtain ⟨success, late⟩ := Classical.not_imp.mp early
  push Not at late
  obtain ⟨u, opened, soon⟩ := late
  intro failFast
  have session := trafficStep_session taken
  have call : e.call = ⟨e.call.wait, .recordSuccess⟩ := by rw [← success]
  have closed : t.session.breaker.state = .closed := by rw [session, call]; rfl
  have clock : t.session.breaker.clock = s.session.breaker.clock + e.call.wait := by
    rw [session, call]
    exact refreshState_clock cfg _
  have kept : u ∈ openings t.session.history := by
    rw [session, call]
    exact opened
  have closedNow : (t.session.breaker.after 0).state = .closed := closed
  have admitted : t.session.allows cfg 0 = true := by
    simp only [Session.allows, allowRequest, refreshState_closed closedNow, closedNow]
  have waited := failFast 0 admitted u kept
  omega

/-- As long as opening times fit their u64, the breaker fails fast throughout a run if
and only if every success of the run is reported after the recovery timeout. -/
theorem fail_fast_iff_successes_after_recovery (cfg : CircuitBreakerConfig) (es : List Exchange)
    (s : Traffic) (fits : Along (trafficStep cfg) (OpeningFits cfg) .start es)
    (ends : run (trafficStep cfg) .start es = some s) :
    Throughout (trafficStep cfg) (FailFast cfg) .start es ↔
      Along (trafficStep cfg) (SuccessAfterRecovery cfg) .start es := by
  refine throughout_iff_along_given (trafficStep cfg) (OpeningFits cfg) _ _
    (fun s => Sheltered cfg s.session.breaker s.session.history) (sheltered_failFast cfg) ?_
    (fun s e t _ early => early_success_admits cfg s t e early) es .start s ?_ fits ends
  · intro s e t held inRange recovered taken
    rw [trafficStep_session taken]
    exact sheltered_call s.session e.call held inRange recovered
  · refine ⟨fun t ht => ?_, fun c => (by cases c), fun _ t ht => ?_⟩ <;> cases ht

/- Two requests are in flight; the first fails at 5 and opens the breaker. -/
def oneFailure : List Exchange := [.request 1, .request 1, .report 3 0 false]

/- The second one succeeds ten nanoseconds later, after the recovery timeout. -/
def lateSuccess : List Exchange := oneFailure ++ [.report 10 1 true]

theorem fail_fast_with_late_success :
    Along (trafficStep quickConfig) (SuccessAfterRecovery quickConfig) .start lateSuccess ∧
      Throughout (trafficStep quickConfig) (FailFast quickConfig) .start lateSuccess :=
  ⟨by decide, (fail_fast_iff_successes_after_recovery quickConfig lateSuccess _ (by decide)
    rfl).mpr (by decide)⟩

/- The second one succeeds one nanosecond later, and a third request follows. -/
def earlySuccess : List Exchange := oneFailure ++ [.report 1 1 true, .request 1]

/-- The third request is admitted at 7, two nanoseconds after an opening whose recovery
timeout is ten. -/
theorem early_success_bypasses_open :
    ∃ s, run (trafficStep quickConfig) .start earlySuccess = some s ∧
      s.session.history.head? = some ⟨7, .allowRequest, .closed, false, .allowed true⟩ ∧
      openings s.session.history = [5] ∧
      ¬ Throughout (trafficStep quickConfig) (FailFast quickConfig) .start earlySuccess := by
  refine ⟨_, rfl, rfl, rfl, fun failFast => ?_⟩
  have admitted := (failFast.2 _ rfl).2 _ rfl |>.2 _ rfl |>.2 _ rfl |>.2 _ rfl
  have waited := admitted 0 rfl 5 (by decide)
  revert waited
  decide

end SdkworkRpc.CircuitBreaker
