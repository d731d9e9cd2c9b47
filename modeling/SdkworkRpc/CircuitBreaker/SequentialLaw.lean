import SdkworkRpc.CircuitBreaker.Sequential
import SdkworkRpc.CircuitBreaker.OpenedAt

/-! What a caller may rely on when calls do not overlap. The law speaks of the
history of calls alone; the ledger ties each field of the breaker to that history. -/
namespace SdkworkRpc.CircuitBreaker

open Machine Run

def failuresSince : List Record → Nat
  | [] => 0
  | r :: h =>
    match r.op with
    | .recordSuccess => 0
    | .recordFailure => failuresSince h + 1
    | _ => failuresSince h

/-- When `open` last ran, if no `record_success` was called since. -/
def standingOpening : List Record → Option Nat
  | [] => none
  | r :: h =>
    if r.opened = true then some r.time
    else if r.op = .recordSuccess then none
    else standingOpening h

/-- The `allow_request` calls since the breaker entered HalfOpen: a call that finds
another state, or reports an outcome, stands before the entry. -/
def probesSince : List Record → Nat
  | [] => 0
  | r :: h =>
    if r.found ≠ .halfOpen then 0
    else match r.op with
      | .state => probesSince h
      | .allowRequest => probesSince h + 1
      | _ => 0

/-- Every opening is later than creation, and the nanoseconds since fit the u64 they
are stored in. -/
def TimelyOpening (cfg : CircuitBreakerConfig) (s : Session) (c : Call) : Prop :=
  opens cfg (s.breaker.after c.wait) c.op = true →
    0 < s.breaker.clock + c.wait ∧ s.breaker.clock + c.wait < 2 ^ 64

def LateOpening (cfg : CircuitBreakerConfig) (s : Session) (c : Call) : Prop :=
  opens cfg (s.breaker.after c.wait) c.op = true → 0 < s.breaker.clock + c.wait

instance (cfg : CircuitBreakerConfig) (s : Session) (c : Call) :
    Decidable (TimelyOpening cfg s c) := inferInstanceAs (Decidable (_ → _))

instance (cfg : CircuitBreakerConfig) (s : Session) (c : Call) :
    Decidable (LateOpening cfg s c) := inferInstanceAs (Decidable (_ → _))

structure Ledger (cfg : CircuitBreakerConfig) (b : Breaker) (h : List Record) : Prop where
  closed : b.state = .closed → b.consecutiveFailures = failuresSince h ∧
    failuresSince h < max 1 cfg.failureThreshold ∧ standingOpening h = none
  opened : b.state = .opened → standingOpening h = some b.openedAtNanos ∧
    0 < b.openedAtNanos ∧ b.openedAtNanos ≤ b.clock
  waited : b.state = .halfOpen →
    ∃ t, standingOpening h = some t ∧ t + cfg.recoveryTimeout.nanos ≤ b.clock
  probes : b.state = .halfOpen → b.halfOpenProbes = min (probesSince h) cfg.halfOpenMaxProbes
  outside : b.state ≠ .halfOpen → probesSince h = 0

section Steps

variable {cfg : CircuitBreakerConfig} {b : Breaker} {h : List Record}

theorem ledger_new (cfg : CircuitBreakerConfig) : Ledger cfg new [] := by
  constructor
  · intro _
    exact ⟨rfl, Nat.lt_of_lt_of_le Nat.one_pos (Nat.le_max_left ..), rfl⟩
  · intro isOpen; cases isOpen
  · intro trial; cases trial
  · intro trial; cases trial
  · intro _; rfl

theorem ledger_after (held : Ledger cfg b h) (wait : Nat) : Ledger cfg (b.after wait) h := by
  refine ⟨held.closed, fun isOpen => ?_, fun trial => ?_, held.probes, held.outside⟩
  · obtain ⟨same, positive, past⟩ := held.opened isOpen
    exact ⟨same, positive, Nat.le_add_right_of_le past⟩
  · obtain ⟨t, same, past⟩ := held.waited trial
    exact ⟨t, same, Nat.le_add_right_of_le past⟩

theorem ledger_refresh (held : Ledger cfg b h) : Ledger cfg (refreshState cfg b) h := by
  rcases refreshState_cases cfg b with ⟨same, _⟩ | ⟨isOpen, _, elapsed, entered⟩
  · rw [same]
    exact held
  · obtain ⟨last, _, past⟩ := held.opened isOpen
    have none_yet : probesSince h = 0 := held.outside (by rw [isOpen]; decide)
    rw [entered]
    refine ⟨fun c => (by cases c), fun c => (by cases c), fun _ => ?_, fun _ => ?_, fun c => ?_⟩
    · exact ⟨b.openedAtNanos, last, by simp only; omega⟩
    · simp only [none_yet, Nat.zero_min]
    · exact absurd rfl c

theorem ledger_unchanged {found : Breaker} (held : Ledger cfg found h) (r : Record)
    (sees : r.found = found.state) (quiet : r.opened = false)
    (op : r.op = .state ∨ (r.op = .allowRequest ∧ found.state ≠ .halfOpen)) :
    Ledger cfg found (r :: h) := by
  have failures : failuresSince (r :: h) = failuresSince h := by
    rcases op with op | ⟨op, _⟩ <;> simp only [failuresSince, op]
  have opening : standingOpening (r :: h) = standingOpening h := by
    rcases op with op | ⟨op, _⟩ <;> simp [standingOpening, quiet, op]
  have probes : probesSince (r :: h) = probesSince h := by
    by_cases trial : found.state = .halfOpen
    · rcases op with op | ⟨_, other⟩
      · simp [probesSince, sees, trial, op]
      · exact absurd trial other
    · simp [probesSince, sees, trial, held.outside trial]
  constructor
  · rw [failures, opening]; exact held.closed
  · rw [opening]; exact held.opened
  · rw [opening]; exact held.waited
  · rw [probes]; exact held.probes
  · rw [probes]; exact held.outside

theorem ledger_probe {found : Breaker} (held : Ledger cfg found h) (r : Record)
    (trial : found.state = .halfOpen) (sees : r.found = .halfOpen) (quiet : r.opened = false)
    (op : r.op = .allowRequest) :
    Ledger cfg (acquireHalfOpenProbe cfg found).1 (r :: h) := by
  have counted := held.probes trial
  have opening : standingOpening (r :: h) = standingOpening h := by
    simp [standingOpening, quiet, op]
  have more : probesSince (r :: h) = probesSince h + 1 := by simp [probesSince, sees, op]
  have limit := cfg.probesFit
  have state : (acquireHalfOpenProbe cfg found).1.state = .halfOpen := by
    unfold acquireHalfOpenProbe
    split <;> exact trial
  have clock : (acquireHalfOpenProbe cfg found).1.clock = found.clock := by
    unfold acquireHalfOpenProbe
    split <;> rfl
  have taken : (acquireHalfOpenProbe cfg found).1.halfOpenProbes =
      min (probesSince h + 1) cfg.halfOpenMaxProbes := by
    unfold acquireHalfOpenProbe
    split
    · rename_i spent
      simp only
      omega
    · rename_i room
      simp only [saturatingAdd]
      omega
  refine ⟨fun c => ?_, fun c => ?_, fun _ => ?_, fun _ => ?_, fun c => ?_⟩
  · rw [state] at c; cases c
  · rw [state] at c; cases c
  · rw [opening, clock]; exact held.waited trial
  · rw [more]; exact taken
  · exact absurd state c

theorem probesSince_outcome (r : Record) (h : List Record)
    (outcome : r.op = .recordSuccess ∨ r.op = .recordFailure) : probesSince (r :: h) = 0 := by
  rcases outcome with op | op <;> simp only [probesSince, op, ite_self]

theorem ledger_success (cfg : CircuitBreakerConfig) (b : Breaker) (h : List Record) :
    Ledger cfg (recordSuccess cfg b) (record cfg b .recordSuccess :: h) := by
  refine ⟨fun _ => ⟨rfl, ?_, rfl⟩, fun c => (by cases c), fun c => (by cases c),
    fun c => (by cases c), fun _ => probesSince_outcome _ h (.inl rfl)⟩
  exact Nat.lt_of_lt_of_le Nat.one_pos (Nat.le_max_left ..)

theorem ledger_open (cfg : CircuitBreakerConfig) (found : Breaker) (h : List Record) (r : Record)
    (ran : r.opened = true) (time : r.time = found.clock) (op : r.op = .recordFailure)
    (late : 0 < found.clock) (fits : found.clock < 2 ^ 64) :
    Ledger cfg (openNow found) (r :: h) := by
  have stored : (openNow found).openedAtNanos = found.clock := Nat.mod_eq_of_lt fits
  refine ⟨fun c => (by cases c), fun _ => ?_, fun c => (by cases c), fun c => (by cases c),
    fun _ => probesSince_outcome r h (.inr op)⟩
  rw [stored]
  exact ⟨by simp only [standingOpening, ran, if_true, time], late, le_refl _⟩

theorem ledger_counted {found : Breaker} (held : Ledger cfg found h) (r : Record)
    (quiet : r.opened = false) (op : r.op = .recordFailure)
    (other : found.state ≠ .halfOpen) (below : reachesThreshold cfg found = false) :
    Ledger cfg (countFailure found) (r :: h) := by
  have opening : standingOpening (r :: h) = standingOpening h := by
    simp [standingOpening, quiet, op]
  have failures : failuresSince (r :: h) = failuresSince h + 1 := by
    simp only [failuresSince, op]
  refine ⟨fun isClosed => ?_, fun isOpen => ?_, fun trial => ?_, fun trial => ?_,
    fun _ => probesSince_outcome r h (.inr op)⟩
  · obtain ⟨count, bound, none_yet⟩ := held.closed isClosed
    have short := of_decide_eq_false below
    have limit := cfg.thresholdFits
    simp only [saturatingAdd, u32Max] at short limit
    rw [failures, opening]
    refine ⟨?_, by omega, none_yet⟩
    simp only [countFailure]
    omega
  · rw [opening]; exact held.opened isOpen
  · exact absurd trial other
  · exact absurd trial other

theorem ledger_call (s : Session) (c : Call) (held : Ledger cfg s.breaker s.history)
    (timely : TimelyOpening cfg s c) :
    Ledger cfg (s.call cfg c).breaker (s.call cfg c).history := by
  obtain ⟨wait, op⟩ := c
  have found := ledger_refresh (ledger_after held wait)
  have clock := refreshState_clock cfg (s.breaker.after wait)
  cases op with
  | state => exact ledger_unchanged found _ rfl rfl (.inl rfl)
  | recordSuccess => exact ledger_success cfg _ _
  | allowRequest =>
    simp only [Session.call, perform, allowRequest]
    cases state : (refreshState cfg (s.breaker.after wait)).state with
    | closed => exact ledger_unchanged found _ rfl rfl (.inr ⟨rfl, by rw [state]; decide⟩)
    | opened => exact ledger_unchanged found _ rfl rfl (.inr ⟨rfl, by rw [state]; decide⟩)
    | halfOpen => exact ledger_probe found _ state state rfl rfl
  | recordFailure =>
    simp only [Session.call, perform]
    rcases recordFailure_cases cfg (s.breaker.after wait) with ⟨ran, opened⟩ |
      ⟨quiet, other, below, counted⟩
    · have inTime := timely ran
      rw [show s.breaker.clock + wait = (s.breaker.after wait).clock from rfl, ← clock] at inTime
      rcases opened with opened | opened <;> rw [opened] <;>
        exact ledger_open cfg _ _ _ ran clock.symm rfl inTime.1 inTime.2
    · rw [counted]
      exact ledger_counted found _ quiet rfl other below

end Steps

theorem ledger_run (cfg : CircuitBreakerConfig) (calls : List Call) (s : Session)
    (timely : Along (callStep cfg) (TimelyOpening cfg) .start calls)
    (ends : run (callStep cfg) .start calls = some s) : Ledger cfg s.breaker s.history := by
  refine run_invariant (callStep cfg) _ (fun s => Ledger cfg s.breaker s.history) ?_ calls _ s
    (ledger_new cfg) timely ends
  intro s c t held ok taken
  cases Option.some.inj taken
  exact ledger_call s c held ok

def Session.allows (cfg : CircuitBreakerConfig) (s : Session) (wait : Nat) : Bool :=
  (allowRequest cfg (s.breaker.after wait)).2

def Session.finds (cfg : CircuitBreakerConfig) (s : Session) (wait : Nat) : CircuitBreakerState :=
  (refreshState cfg (s.breaker.after wait)).state

/-- The law of the breaker at one moment: what its history says of the next call,
whatever that call is and whenever it comes. -/
structure SequentialLaw (cfg : CircuitBreakerConfig) (s : Session) : Prop where
  closedAdmits : s.breaker.state = .closed → ∀ wait, s.allows cfg wait = true
  /-- Closed opens at the threshold failure: not before it, not after it, and at nothing else. -/
  closedOpens : s.breaker.state = .closed → failuresSince s.history < max 1 cfg.failureThreshold ∧
    ∀ c, ((s.call cfg c).breaker.state = .opened ↔ c.op = .recordFailure ∧
      failuresSince s.history + 1 = max 1 cfg.failureThreshold)
  /-- The counter is the number of failures, and adding one to it does not wrap. -/
  closedCounts : s.breaker.state = .closed →
    s.breaker.consecutiveFailures = failuresSince s.history ∧
      s.breaker.consecutiveFailures + 1 < 2 ^ 32
  openRefuses : ∀ t, standingOpening s.history = some t → ∀ wait,
    s.breaker.clock + wait < t + cfg.recoveryTimeout.nanos → s.allows cfg wait = false
  openRecovers : ∀ t, standingOpening s.history = some t → ∀ wait,
    t + cfg.recoveryTimeout.nanos ≤ s.breaker.clock + wait → s.finds cfg wait = .halfOpen
  probesBounded : ∀ wait, s.finds cfg wait = .halfOpen →
    s.allows cfg wait = decide (probesSince s.history < cfg.halfOpenMaxProbes)
  failureReopens : ∀ wait, s.finds cfg wait = .halfOpen →
    (s.call cfg ⟨wait, .recordFailure⟩).breaker.state = .opened
  successCloses : ∀ wait, (s.call cfg ⟨wait, .recordSuccess⟩).breaker.state = .closed

section Law

variable {cfg : CircuitBreakerConfig} {b : Breaker} {h : List Record}

theorem refreshState_closed (isClosed : b.state = .closed) : refreshState cfg b = b := by
  simp [refreshState, isClosed]

theorem ledger_finds {t : Nat} (held : Ledger cfg b h) (last : standingOpening h = some t) :
    (b.clock < t + cfg.recoveryTimeout.nanos → (refreshState cfg b).state = .opened) ∧
    (t + cfg.recoveryTimeout.nanos ≤ b.clock → (refreshState cfg b).state = .halfOpen) := by
  cases state : b.state with
  | closed =>
    have none_since := (held.closed state).2.2
    rw [last] at none_since
    cases none_since
  | halfOpen =>
    obtain ⟨u, same, waited⟩ := held.waited state
    cases Option.some.inj (last.symm.trans same)
    have kept : refreshState cfg b = b := by simp [refreshState, state]
    rw [kept]
    exact ⟨fun early => by omega, fun _ => state⟩
  | opened =>
    obtain ⟨same, positive, past⟩ := held.opened state
    cases Option.some.inj (last.symm.trans same)
    rcases refreshState_cases cfg b with ⟨kept, early⟩ | ⟨_, _, late, entered⟩
    · rw [kept]
      have := early state
      exact ⟨fun _ => state, fun late => by omega⟩
    · rw [entered]
      exact ⟨fun early => by omega, fun _ => rfl⟩

theorem ledger_closed_opens (held : Ledger cfg b h) (isClosed : b.state = .closed)
    (op : Operation) : (perform cfg b op).1.state = .opened ↔
      op = .recordFailure ∧ failuresSince h + 1 = max 1 cfg.failureThreshold := by
  obtain ⟨count, bound, _⟩ := held.closed isClosed
  have limit := cfg.thresholdFits
  simp only [u32Max] at limit
  have kept : refreshState cfg b = b := refreshState_closed isClosed
  cases op with
  | state => simp [perform, kept, isClosed]
  | allowRequest => simp [perform, allowRequest, kept, isClosed]
  | recordSuccess => simp [perform, recordSuccess]
  | recordFailure =>
    have reached : reachesThreshold cfg b = true ↔
        failuresSince h + 1 = max 1 cfg.failureThreshold := by
      simp only [reachesThreshold, decide_eq_true_eq, saturatingAdd, u32Max, count]
      omega
    simp only [perform, recordFailure, kept, isClosed, reduceCtorEq, if_false, true_and]
    rw [← reached]
    split
    · rename_i yes
      simp [openNow, yes]
    · rename_i no
      simp [countFailure, isClosed, no]

theorem ledger_law (s : Session) (held : Ledger cfg s.breaker s.history) :
    SequentialLaw cfg s := by
  have at_wait := fun wait => ledger_after held wait
  constructor
  · intro isClosed wait
    have here : (s.breaker.after wait).state = .closed := isClosed
    simp only [Session.allows, allowRequest, refreshState_closed here, here]
  · intro isClosed
    exact ⟨(held.closed isClosed).2.1, fun c => ledger_closed_opens (at_wait c.wait) isClosed c.op⟩
  · intro isClosed
    obtain ⟨count, bound, _⟩ := held.closed isClosed
    have limit := cfg.thresholdFits
    simp only [u32Max] at limit
    exact ⟨count, by omega⟩
  · intro t last wait early
    have found := (ledger_finds (at_wait wait) last).1 early
    simp only [Session.allows, allowRequest, found]
  · intro t last wait late
    exact (ledger_finds (at_wait wait) last).2 late
  · intro wait trial
    have counted := (ledger_refresh (at_wait wait)).probes trial
    simp only [Session.finds] at trial
    simp only [Session.allows, allowRequest, trial, acquireHalfOpenProbe, counted]
    split
    · rename_i spent
      exact (decide_eq_false (by omega)).symm
    · rename_i room
      exact (decide_eq_true (by omega)).symm
  · intro wait trial
    simp only [Session.finds] at trial
    simp only [Session.call, perform, recordFailure, trial, if_true]
    rfl
  · intro wait
    rfl

end Law

/-- When calls do not overlap and every opening comes later than creation and within
the range of the u64 it is stored in, the breaker obeys its law after every call. -/
theorem sequential_breaker_law (cfg : CircuitBreakerConfig) (calls : List Call) (s : Session)
    (timely : Along (callStep cfg) (TimelyOpening cfg) .start calls)
    (ends : run (callStep cfg) .start calls = some s) : SequentialLaw cfg s :=
  ledger_law s (ledger_run cfg calls s timely ends)

/- A success is reported at 3 and a failure at 5, which opens the breaker. A request at 9 is
refused and one at 15 gets the probe. -/
def successAtThree : List Call := [⟨3, .recordSuccess⟩]
def failureAtFive : List Call := successAtThree ++ [⟨2, .recordFailure⟩]
def probeAtFifteen : List Call := failureAtFive ++ [⟨4, .allowRequest⟩, ⟨6, .allowRequest⟩]

theorem sequential_breaker_law_at_five :
    ∃ closed opened trial, run (callStep quickConfig) .start successAtThree = some closed ∧
      closed.allows quickConfig 2 = true ∧
      (closed.call quickConfig ⟨2, .recordFailure⟩).breaker.state = .opened ∧
      run (callStep quickConfig) .start failureAtFive = some opened ∧
      standingOpening opened.history = some 5 ∧ opened.allows quickConfig 9 = false ∧
      opened.finds quickConfig 10 = .halfOpen ∧
      run (callStep quickConfig) .start probeAtFifteen = some trial ∧
      trial.finds quickConfig 1 = .halfOpen ∧ trial.allows quickConfig 1 = false ∧
      (trial.call quickConfig ⟨1, .recordFailure⟩).breaker.state = .opened ∧
      (trial.call quickConfig ⟨1, .recordSuccess⟩).breaker.state = .closed := by
  have whileClosed := sequential_breaker_law quickConfig successAtThree _ (by decide) rfl
  have whileOpen := sequential_breaker_law quickConfig failureAtFive _ (by decide) rfl
  have onTrial := sequential_breaker_law quickConfig probeAtFifteen _ (by decide) rfl
  refine ⟨_, _, _, rfl, ?_, ?_, rfl, rfl, ?_, ?_, rfl, rfl, ?_, ?_, ?_⟩
  · exact whileClosed.closedAdmits rfl 2
  · exact ((whileClosed.closedOpens rfl).2 _).mpr ⟨rfl, rfl⟩
  · exact whileOpen.openRefuses 5 rfl 9 (by decide)
  · exact whileOpen.openRecovers 5 rfl 10 (by decide)
  · exact onTrial.probesBounded 1 rfl
  · exact onTrial.failureReopens 1 rfl
  · exact onTrial.successCloses 1

/- The same failure 2 ^ 64 nanoseconds later: the time stored is again 5, so the
recovery timeout has long passed when the next call comes. -/
def failureAfterWrap : List Call := [⟨2 ^ 64 + 5, .recordFailure⟩]

theorem wrapped_opening_admits :
    ∃ s, run (callStep quickConfig) .start failureAfterWrap = some s ∧
      Along (callStep quickConfig) (LateOpening quickConfig) .start failureAfterWrap ∧
      ¬ SequentialLaw quickConfig s := by
  refine ⟨_, rfl, by decide, fun law => ?_⟩
  have refused := law.openRefuses (2 ^ 64 + 5) rfl 0 (by decide)
  revert refused
  decide

end SdkworkRpc.CircuitBreaker
