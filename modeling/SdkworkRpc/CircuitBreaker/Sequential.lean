import SdkworkRpc.CircuitBreaker.Machine
import Mathlib.Logic.Relation

/-! The breaker as a caller meets it when no other caller is inside: every operation
is a function of the fields, and a session is a list of such calls under a clock that
moves between them. The functions are not a second reading of the source: each one is
what the atomic steps of its operation do when nothing comes between them. -/
namespace SdkworkRpc.CircuitBreaker

open Machine Run

def refreshState (cfg : CircuitBreakerConfig) (b : Breaker) : Breaker :=
  if b.state ≠ .opened then b
  else if b.openedAtNanos = 0 then b
  else if b.clock - b.openedAtNanos < cfg.recoveryTimeout.nanos then b
  else { b with state := .halfOpen, halfOpenProbes := 0, consecutiveFailures := 0 }

/-- The body of `open`; the cast to u64 keeps the low 64 bits of the elapsed nanoseconds. -/
def openNow (b : Breaker) : Breaker :=
  { b with state := .opened, openedAtNanos := b.clock % 2 ^ 64, halfOpenProbes := 0 }

def acquireHalfOpenProbe (cfg : CircuitBreakerConfig) (b : Breaker) : Breaker × Bool :=
  if cfg.halfOpenMaxProbes ≤ b.halfOpenProbes then (b, false)
  else ({ b with halfOpenProbes := saturatingAdd u32Max b.halfOpenProbes 1 }, true)

def allowRequest (cfg : CircuitBreakerConfig) (b : Breaker) : Breaker × Bool :=
  let found := refreshState cfg b
  match found.state with
  | .closed => (found, true)
  | .opened => (found, false)
  | .halfOpen => acquireHalfOpenProbe cfg found

def recordSuccess (cfg : CircuitBreakerConfig) (b : Breaker) : Breaker :=
  { refreshState cfg b with
    state := .closed, consecutiveFailures := 0, halfOpenProbes := 0, openedAtNanos := 0 }

/-- The failure being recorded is the one that `failures >= failure_threshold` asks for. -/
def reachesThreshold (cfg : CircuitBreakerConfig) (b : Breaker) : Bool :=
  decide (cfg.failureThreshold ≤ saturatingAdd u32Max b.consecutiveFailures 1)

def countFailure (b : Breaker) : Breaker :=
  { b with consecutiveFailures := (b.consecutiveFailures + 1) % 2 ^ 32 }

def recordFailure (cfg : CircuitBreakerConfig) (b : Breaker) : Breaker :=
  let found := refreshState cfg b
  if found.state = .halfOpen then openNow found
  else if reachesThreshold cfg found = true then openNow (countFailure found)
  else countFailure found

def perform (cfg : CircuitBreakerConfig) (b : Breaker) : Operation → Breaker × Answer
  | .state => (refreshState cfg b, .state (refreshState cfg b).state)
  | .allowRequest => ((allowRequest cfg b).1, .allowed (allowRequest cfg b).2)
  | .recordSuccess => (recordSuccess cfg b, .recorded)
  | .recordFailure => (recordFailure cfg b, .recorded)

/-- What is left of an operation once its `refresh_state` has left the fields `found`. -/
def conclude (cfg : CircuitBreakerConfig) (found : Breaker) : Operation → Breaker × Answer
  | .state => (found, .state found.state)
  | .allowRequest =>
    match found.state with
    | .closed => (found, .allowed true)
    | .opened => (found, .allowed false)
    | .halfOpen =>
      ((acquireHalfOpenProbe cfg found).1, .allowed (acquireHalfOpenProbe cfg found).2)
  | .recordSuccess =>
    ({ found with state := .closed, consecutiveFailures := 0, halfOpenProbes := 0,
                  openedAtNanos := 0 }, .recorded)
  | .recordFailure =>
    (if found.state = .halfOpen then openNow found
      else if reachesThreshold cfg found = true then openNow (countFailure found)
      else countFailure found, .recorded)

theorem perform_conclude (cfg : CircuitBreakerConfig) (b : Breaker) (op : Operation) :
    perform cfg b op = conclude cfg (refreshState cfg b) op := by
  cases op with
  | allowRequest =>
    simp only [perform, allowRequest, conclude]
    cases (refreshState cfg b).state <;> rfl
  | _ => rfl

def opens (cfg : CircuitBreakerConfig) (b : Breaker) : Operation → Bool
  | .recordFailure => decide ((refreshState cfg b).state = .halfOpen) ||
      reachesThreshold cfg (refreshState cfg b)
  | _ => false

theorem refreshState_clock (cfg : CircuitBreakerConfig) (b : Breaker) :
    (refreshState cfg b).clock = b.clock := by
  unfold refreshState
  split
  · rfl
  · split
    · rfl
    · split <;> rfl

/-- `refresh_state` either changes nothing, or turns an Open breaker whose recovery
timeout has passed into a HalfOpen one with both counters at zero. -/
theorem refreshState_cases (cfg : CircuitBreakerConfig) (b : Breaker) :
    (refreshState cfg b = b ∧ (b.state = .opened →
      b.openedAtNanos = 0 ∨ b.clock - b.openedAtNanos < cfg.recoveryTimeout.nanos)) ∨
    (b.state = .opened ∧ b.openedAtNanos ≠ 0 ∧
      cfg.recoveryTimeout.nanos ≤ b.clock - b.openedAtNanos ∧
      refreshState cfg b =
        { b with state := .halfOpen, halfOpenProbes := 0, consecutiveFailures := 0 }) := by
  unfold refreshState
  split
  · rename_i other
    exact .inl ⟨rfl, fun isOpen => absurd isOpen other⟩
  · rename_i isOpen
    split
    · rename_i unset
      exact .inl ⟨rfl, fun _ => .inl unset⟩
    · rename_i stored
      split
      · rename_i early
        exact .inl ⟨rfl, fun _ => .inr early⟩
      · rename_i late
        exact .inr ⟨not_not.mp isOpen, stored, Nat.le_of_not_lt late, rfl⟩

/-- `record_failure` either runs `open`, with or without having counted first, or counts
a failure that is not yet the threshold one. -/
theorem recordFailure_cases (cfg : CircuitBreakerConfig) (b : Breaker) :
    (opens cfg b .recordFailure = true ∧
      (recordFailure cfg b = openNow (refreshState cfg b) ∨
        recordFailure cfg b = openNow (countFailure (refreshState cfg b)))) ∨
    (opens cfg b .recordFailure = false ∧ (refreshState cfg b).state ≠ .halfOpen ∧
      reachesThreshold cfg (refreshState cfg b) = false ∧
      recordFailure cfg b = countFailure (refreshState cfg b)) := by
  simp only [recordFailure, opens]
  by_cases trial : (refreshState cfg b).state = .halfOpen
  · simp [trial]
  · cases reached : reachesThreshold cfg (refreshState cfg b) <;> simp [trial]

structure Call where
  wait : Nat
  op : Operation
  deriving DecidableEq, Repr

/-- What a call leaves in the history: when it ran, the state it found once
`refresh_state` had returned, whether it ran `open`, and its answer. -/
structure Record where
  time : Nat
  op : Operation
  found : CircuitBreakerState
  opened : Bool
  answer : Answer
  deriving DecidableEq, Repr

structure Session where
  breaker : Breaker
  history : List Record
  deriving DecidableEq

def Session.start : Session := ⟨new, []⟩

def Breaker.after (b : Breaker) (wait : Nat) : Breaker := { b with clock := b.clock + wait }

def record (cfg : CircuitBreakerConfig) (b : Breaker) (op : Operation) : Record :=
  ⟨b.clock, op, (refreshState cfg b).state, opens cfg b op, (perform cfg b op).2⟩

def Session.call (cfg : CircuitBreakerConfig) (s : Session) (c : Call) : Session :=
  ⟨(perform cfg (s.breaker.after c.wait) c.op).1,
    record cfg (s.breaker.after c.wait) c.op :: s.history⟩

def callStep (cfg : CircuitBreakerConfig) (s : Session) (c : Call) : Option Session :=
  some (s.call cfg c)

section Alone

variable {ι : Type*} (cfg : CircuitBreakerConfig) (i : ι)

def Advances (x y : Breaker × Point) : Prop :=
  ∃ e, advance cfg i x.1 x.2 = some (y.1, y.2, e)

abbrev Alone : Breaker × Point → Breaker × Point → Prop :=
  Relation.ReflTransGen (Advances cfg i)

variable {cfg i}

theorem Alone.step {b c d : Breaker} {p q r : Point} {e : Event ι}
    (taken : advance cfg i b p = some (c, q, e)) (rest : Alone cfg i (c, q) (d, r)) :
    Alone cfg i (b, p) (d, r) :=
  .head ⟨e, taken⟩ rest

variable (cfg i)

theorem refreshState_alone (b : Breaker) (op : Operation) :
    Alone cfg i (b, .refreshLoad op) (refreshState cfg b, afterRefresh op) := by
  unfold refreshState
  refine .step rfl ?_
  by_cases isOpen : b.state = .opened
  · simp only [isOpen, ne_eq, not_true_eq_false, if_true, if_false]
    refine .step rfl ?_
    by_cases unset : b.openedAtNanos = 0
    · simp only [if_pos unset]
      exact .refl
    · simp only [if_neg unset]
      refine .step rfl ?_
      by_cases early : b.clock - b.openedAtNanos < cfg.recoveryTimeout.nanos
      · simp only [if_pos early]
        exact .refl
      · simp only [if_neg early]
        refine .step (by simp only [advance, if_pos isOpen]; rfl) ?_
        exact .step rfl (.step rfl .refl)
  · simp only [ne_eq, isOpen, not_false_eq_true, if_true]
    exact .refl

theorem openNow_alone (b : Breaker) :
    Alone cfg i (b, .openSwap) (openNow b, .idle (some .recorded)) :=
  .step rfl (.step rfl (.step rfl (.step rfl .refl)))

theorem acquireHalfOpenProbe_alone (b : Breaker) :
    Alone cfg i (b, .probeLoad)
      ((acquireHalfOpenProbe cfg b).1, .idle (some (.allowed (acquireHalfOpenProbe cfg b).2))) := by
  unfold acquireHalfOpenProbe
  refine .step rfl ?_
  by_cases spent : cfg.halfOpenMaxProbes ≤ b.halfOpenProbes
  · simp only [if_pos spent]
    exact .refl
  · simp only [if_neg spent]
    -- The value just read is still there, so the exchange succeeds at once.
    exact .step (by simp only [advance, if_true]; rfl) .refl

theorem conclude_alone (found : Breaker) (op : Operation) :
    Alone cfg i (found, afterRefresh op)
      ((conclude cfg found op).1, .idle (some (conclude cfg found op).2)) := by
  cases op with
  | state => exact .step rfl .refl
  | recordSuccess => exact .step rfl (.step rfl (.step rfl (.step rfl .refl)))
  | allowRequest =>
    simp only [conclude]
    cases state : found.state with
    | closed => exact .step (by simp only [afterRefresh, advance, state]; rfl) .refl
    | opened => exact .step (by simp only [afterRefresh, advance, state]; rfl) .refl
    | halfOpen =>
      exact .step (by simp only [afterRefresh, advance, state]; rfl)
        (acquireHalfOpenProbe_alone cfg i _)
  | recordFailure =>
    simp only [conclude, reachesThreshold, decide_eq_true_eq]
    refine .step rfl ?_
    by_cases trial : found.state = .halfOpen
    · simp only [if_pos trial]
      exact openNow_alone cfg i _
    · simp only [if_neg trial]
      refine .step rfl ?_
      by_cases reached : cfg.failureThreshold ≤ saturatingAdd u32Max found.consecutiveFailures 1
      · simp only [if_pos reached]
        exact openNow_alone cfg i _
      · simp only [if_neg reached]
        exact .refl

variable [DecidableEq ι]

theorem Alone.run {x y : Breaker × Point} (steps : Alone cfg i x y) (s : World ι)
    (shared : s.shared = x.1) (here : s.thread i = x.2) :
    ∃ n t, Run.run (CircuitBreaker.step cfg) s (List.replicate n (.thread i .advance)) = some t ∧
      t.shared = y.1 ∧ t.thread = Function.update s.thread i y.2 := by
  induction steps using Relation.ReflTransGen.head_induction_on generalizing s with
  | refl => exact ⟨0, s, rfl, shared, by rw [← here, Function.update_eq_self]⟩
  | head first rest ih =>
    obtain ⟨e, taken⟩ := first
    rename_i x z
    let u : World ι := ⟨z.1, Function.update s.thread i z.2, e :: s.history⟩
    have moves : CircuitBreaker.step cfg s (.thread i .advance) = some u := by
      simp only [CircuitBreaker.step, Interleaving.System.next, system, callerStep, shared, here,
        taken, Option.map_some]
      rfl
    obtain ⟨n, t, ends, ht, hthread⟩ := ih u rfl (Function.update_self ..)
    refine ⟨n + 1, t, ?_, ht, ?_⟩
    · rw [List.replicate_succ, Run.run, moves]
      exact ends
    · rw [hthread, Function.update_idem]

/-- A call made while no other caller moves does to the fields what `perform` says,
and returns its answer. -/
theorem perform_alone (s : World ι) (c : Call) (idle : (s.thread i).isIdle = true) :
    ∃ n t, Run.run (CircuitBreaker.step cfg) s
        (.environment c.wait :: .thread i (.call c.op) :: List.replicate n (.thread i .advance)) =
          some t ∧
      t.shared = (perform cfg (s.shared.after c.wait) c.op).1 ∧
      t.thread = Function.update s.thread i
        (.idle (some (perform cfg (s.shared.after c.wait) c.op).2)) := by
  have steps := (refreshState_alone cfg i (s.shared.after c.wait) c.op).trans
    (conclude_alone cfg i _ c.op)
  rw [← perform_conclude] at steps
  cases here : s.thread i with
  | idle answer =>
    let u : World ι := ⟨s.shared.after c.wait, Function.update s.thread i (.refreshLoad c.op),
      .quiet i :: .ticked :: s.history⟩
    obtain ⟨n, t, ends, ht, hthread⟩ := Alone.run cfg i steps u rfl (Function.update_self ..)
    refine ⟨n, t, ?_, ht, by rw [hthread, Function.update_idem]⟩
    simp only [Run.run, CircuitBreaker.step, Interleaving.System.next, system, tick, callerStep,
      here, Option.map_some, Option.bind_some]
    exact ends
  | _ => simp [here, Point.isIdle] at idle

/-- Every session is a run of the atomic steps by one caller. -/
theorem session_refines (calls : List Call) (s t : Session) (w : World ι)
    (same : w.shared = s.breaker) (idle : (w.thread i).isIdle = true)
    (ends : Run.run (callStep cfg) s calls = some t) :
    ∃ as v, Run.run (CircuitBreaker.step cfg) w as = some v ∧ v.shared = t.breaker ∧
      (v.thread i).isIdle = true := by
  induction calls generalizing s w with
  | nil =>
    cases Option.some.inj ends
    exact ⟨[], w, rfl, same, idle⟩
  | cons c rest ih =>
    obtain ⟨u, hu, tail⟩ := run_cons ends
    cases Option.some.inj hu
    obtain ⟨n, v, first, hv, hthread⟩ := perform_alone cfg i w c idle
    obtain ⟨as, x, later, hx, restIdle⟩ := ih (s.call cfg c) v (by rw [hv, same]; rfl)
      (by rw [hthread, Function.update_self]; rfl) tail
    exact ⟨_, x, run_append first later, hx, restIdle⟩

end Alone

end SdkworkRpc.CircuitBreaker
