import SdkworkRpc.Resilience.Retry
import SdkworkRpc.Library.Run

/-! The two ways to decide on a retry compared, and the retries of one call taken
together: how many there are, how long they wait and what they leave of the budget. -/
namespace SdkworkRpc.Resilience

open Machine Client Run

section Undated

variable (policy : RetryPolicy) (code : Code) (attempt : Nat) (budget : RetryBudgetTracker)
  (admission : RetryAdmission) (draw : Jitter)

theorem deadlineCoversBackoff_max (backoffMs : Nat) :
    deadlineCoversBackoff backoffMs .max = true := by
  have beyond : u64TryFrom Duration.max.asMillis = none := by decide
  rw [deadlineCoversBackoff, beyond]

/-- Without a deadline no backoff is drawn, and nothing that depends on time is asked for. -/
theorem shouldRetryCall_iff :
    (shouldRetryCall policy code attempt budget admission draw).1 = true ↔
      admission.allowsRetryMetadata = true ∧ attempt < policy.maxAttempts.toNat ∧
        code ∈ policy.retryableCodes ∧ 0 < budget.remaining := by
  unfold shouldRetryCall
  rcases deadline_decision policy attempt budget admission .max draw code with
    ⟨yes, decided⟩ | ⟨no, decided⟩
  · rw [decided]
    exact iff_of_true rfl ⟨yes.admitted, yes.attempts, of_decide_eq_true yes.code, yes.tokens⟩
  · rw [decided]
    refine iff_of_false Bool.false_ne_true ?_
    rintro ⟨admitted, attempts, listed, tokens⟩
    exact no ⟨admitted, attempts, decide_eq_true listed, deadlineCoversBackoff_max _, tokens⟩

theorem shouldRetry_unkeyed (hasIdempotencyKey : Bool) :
    policy.shouldRetry code attempt budget draw =
      shouldRetryCall policy code attempt budget ⟨false, hasIdempotencyKey⟩ draw := by
  simp [RetryPolicy.shouldRetry, shouldRetryCall, shouldRetryCallWithDeadline,
    RetryAdmission.allowsRetryMetadata]

/-- A deadline only takes retries away. -/
theorem deadline_only_refuses {remaining : Duration}
    (granted : (shouldRetryCallWithDeadline policy code attempt budget admission remaining
      draw).1 = true) (other : Jitter) :
    (shouldRetryCall policy code attempt budget admission other).1 = true := by
  rcases deadline_decision policy attempt budget admission remaining draw code with
    ⟨yes, -⟩ | ⟨-, decided⟩
  · exact (shouldRetryCall_iff ..).mpr
      ⟨yes.admitted, yes.attempts, of_decide_eq_true yes.code, yes.tokens⟩
  · rw [decided] at granted
    cases granted

end Undated

section Pushback

variable {t : Tonic} (policy : RetryPolicy) (status : Status t) (attempt : Nat)
  (budget : RetryBudgetTracker) (admission : RetryAdmission) (remaining : Duration) (draw : Jitter)

theorem other_code_decision (other : status.code ≠ .resourceExhausted) :
    let decided := shouldRetryCallWithPushback policy status attempt budget admission remaining draw
    let plain :=
      shouldRetryCallWithDeadline policy status.code attempt budget admission remaining draw
    ((∃ ms, decided.1 = .retry ms) ↔ plain.1 = true) ∧
      (∀ ms, decided.1 = .retry ms → ms = retryBackoffMs policy attempt draw) ∧
      decided.2 = plain.2 := by
  intro decided plain
  have decision := pushback_decision policy attempt budget admission remaining draw status
  have ignored : pushbackMs status = none := if_neg other
  have listed : codeAllowed policy status = decide (status.code ∈ policy.retryableCodes) :=
    if_neg other
  simp only [ignored, listed, effectiveRetryBackoffMs] at decision
  have same := deadline_decision policy attempt budget admission remaining draw status.code
  rcases decision with ⟨yes, hd⟩ | ⟨no, hd⟩ <;> rcases same with ⟨also, hp⟩ | ⟨not, hp⟩
  · simp only [decided, plain, hd, hp]
    exact ⟨⟨fun _ => trivial, fun _ => ⟨_, rfl⟩⟩, fun ms h => (RetryDecision.retry.inj h).symm,
      trivial⟩
  · exact absurd yes not
  · exact absurd also no
  · simp [decided, plain, hd, hp]

theorem exhausted_decision (exhausted : status.code = .resourceExhausted) (ms : Nat) :
    let decided := shouldRetryCallWithPushback policy status attempt budget admission remaining draw
    decided.1 = .retry ms ↔
      ∃ p, extractRetryPushbackMs status = some p ∧ status.code ∈ policy.retryableCodes ∧
        admission.allowsRetryMetadata = true ∧ attempt < policy.maxAttempts.toNat ∧
        deadlineCoversBackoff (min p policy.maxBackoffMs.toNat) remaining = true ∧
        0 < budget.remaining ∧ ms = min p policy.maxBackoffMs.toNat := by
  intro decided
  have decision := pushback_decision policy attempt budget admission remaining draw status
  have read : pushbackMs status = extractRetryPushbackMs status := if_pos exhausted
  have gated : codeAllowed policy status =
      ((extractRetryPushbackMs status).isSome &&
        decide (status.code ∈ policy.retryableCodes)) := by
    rw [codeAllowed, if_pos exhausted, read]
  simp only [read, gated] at decision
  constructor
  · intro retried
    rcases decision with ⟨yes, hd⟩ | ⟨_, hd⟩
    · have allowed := yes.code
      rw [Bool.and_eq_true, decide_eq_true_eq] at allowed
      obtain ⟨p, parsed⟩ := Option.isSome_iff_exists.mp allowed.1
      have deadline := yes.deadline
      simp only [decided, hd, parsed, effectiveRetryBackoffMs] at retried deadline
      exact ⟨p, parsed, allowed.2, yes.admitted, yes.attempts, deadline, yes.tokens,
        (RetryDecision.retry.inj retried).symm⟩
    · simp [decided, hd] at retried
  · rintro ⟨p, parsed, member, admitted, attempts, deadline, tokens, rfl⟩
    simp only [parsed, effectiveRetryBackoffMs, Option.isSome_some, Bool.true_and] at decision
    rcases decision with ⟨_, hd⟩ | ⟨no, _⟩
    · simp only [decided, hd]
    · exact absurd ⟨admitted, attempts, decide_eq_true member, deadline, tokens⟩ no

end Pushback

/-- Without an exhausted resource the two decisions agree, whatever the trailer says; with
one, only a pushback that parses makes a retry, and it alone sets the backoff. -/
theorem pushback_refines_deadline {t : Tonic} (policy : RetryPolicy) (status : Status t)
    (attempt : Nat) (budget : RetryBudgetTracker) (admission : RetryAdmission)
    (remaining : Duration) (draw : Jitter) :
    let decided := shouldRetryCallWithPushback policy status attempt budget admission remaining draw
    let plain :=
      shouldRetryCallWithDeadline policy status.code attempt budget admission remaining draw
    (status.code ≠ .resourceExhausted →
      ((∃ ms, decided.1 = .retry ms) ↔ plain.1 = true) ∧
      (∀ ms, decided.1 = .retry ms → ms = retryBackoffMs policy attempt draw) ∧
      decided.2 = plain.2) ∧
    (status.code = .resourceExhausted → ∀ ms, decided.1 = .retry ms ↔
      ∃ p, extractRetryPushbackMs status = some p ∧ status.code ∈ policy.retryableCodes ∧
        admission.allowsRetryMetadata = true ∧ attempt < policy.maxAttempts.toNat ∧
        deadlineCoversBackoff (min p policy.maxBackoffMs.toNat) remaining = true ∧
        0 < budget.remaining ∧ ms = min p policy.maxBackoffMs.toNat) ∧
    (decided.1 = .stop → decided.2 = budget) := by
  intro decided plain
  refine ⟨fun other => ?_, fun exhausted ms => ?_, fun stopped => ?_⟩
  · exact other_code_decision policy status attempt budget admission remaining draw other
  · exact exhausted_decision policy status attempt budget admission remaining draw exhausted ms
  · rcases pushback_decision policy attempt budget admission remaining draw status with
      ⟨_, hd⟩ | ⟨_, hd⟩
    · simp [decided, hd] at stopped
    · simp only [decided, hd]

/-- What a failed attempt brings to the decision: its status, the time that is left and
the random number drawn. -/
structure Failure (t : Tonic) where
  status : Status t
  remaining : Duration
  draw : Jitter

structure Retry where
  backoffMs : Nat
  remaining : Duration
  deriving DecidableEq

/-- A call being retried. `limit` is the most that may be left, in nanoseconds, when the
next attempt fails. -/
structure RetryLoop where
  attempt : Nat
  budget : RetryBudgetTracker
  limit : Nat
  retries : List Retry
  stopped : Bool
  deriving DecidableEq

def RetryLoop.start (attempt budget : Nat) (remaining : Duration) : RetryLoop :=
  ⟨attempt, ⟨budget⟩, remaining.nanos, [], false⟩

/-- One failed attempt. The loop is left at the first Stop; after a Retry the attempt rises
by one and the backoff, at least, is gone from the time that is left. -/
def retryStep {t : Tonic} (policy : RetryPolicy) (admission : RetryAdmission) (s : RetryLoop)
    (f : Failure t) : Option RetryLoop :=
  if s.stopped = true ∨ s.limit < f.remaining.nanos then none
  else match shouldRetryCallWithPushback policy f.status s.attempt s.budget admission f.remaining
      f.draw with
    | (.stop, budget) => some { s with budget := budget, stopped := true }
    | (.retry backoffMs, budget) =>
      some ⟨s.attempt + 1, budget, f.remaining.nanos - backoffMs * 1000000,
        ⟨backoffMs, f.remaining⟩ :: s.retries, false⟩

def totalBackoffMs : List Retry → Nat
  | [] => 0
  | r :: rest => r.backoffMs + totalBackoffMs rest

def Retry.LeavesReserve (r : Retry) : Prop :=
  r.backoffMs + max 10 (r.backoffMs / 2) ≤ u64Max →
    max 10 (r.backoffMs / 2) * 1000000 ≤ r.remaining.nanos - r.backoffMs * 1000000

structure WithinBounds (policy : RetryPolicy) (admission : RetryAdmission) (attempt budget : Nat)
    (remaining : Duration) (s : RetryLoop) : Prop where
  attempts : s.retries.length ≤ policy.maxAttempts.toNat - attempt
  tokens : s.retries.length ≤ budget ∧ s.budget.remaining = budget - s.retries.length
  admitted : admission.allowsRetryMetadata = false → s.retries = []
  time : totalBackoffMs s.retries * 1000000 ≤ remaining.nanos
  reserve : ∀ r ∈ s.retries, r.LeavesReserve

/-- What a failed attempt does to the loop: it ends it with nothing spent, or it spends one
attempt, one token and the backoff. -/
theorem retryStep_cases {t : Tonic} {policy : RetryPolicy} {admission : RetryAdmission}
    {s u : RetryLoop} {f : Failure t} (taken : retryStep policy admission s f = some u) :
    f.remaining.nanos ≤ s.limit ∧ (u = { s with stopped := true } ∨
      ∃ ms, ms * 1000000 ≤ f.remaining.nanos ∧ (⟨ms, f.remaining⟩ : Retry).LeavesReserve ∧
        admission.allowsRetryMetadata = true ∧ s.attempt < policy.maxAttempts.toNat ∧
        0 < s.budget.remaining ∧
        u = ⟨s.attempt + 1, ⟨s.budget.remaining - 1⟩, f.remaining.nanos - ms * 1000000,
          ⟨ms, f.remaining⟩ :: s.retries, false⟩) := by
  unfold retryStep at taken
  split at taken
  · cases taken
  · rename_i enabled
    refine ⟨by omega, ?_⟩
    rcases pushback_decision policy s.attempt s.budget admission f.remaining f.draw f.status with
      ⟨yes, decided⟩ | ⟨_, decided⟩
    · rw [decided] at taken
      have room := deadline_leaves_room (effectiveRetryBackoffMs_fits policy s.attempt f.draw _)
        yes.deadline
      refine .inr ⟨_, room.1, fun fits => ?_, yes.admitted, yes.attempts, yes.tokens,
        (Option.some.inj taken).symm⟩
      have both := room.2 (by rw [rpcEstimateMs, minRpcDeadlineReserveMs, Nat.max_comm]; exact fits)
      rw [rpcEstimateMs, minRpcDeadlineReserveMs, Nat.max_comm, Nat.add_mul] at both
      exact Nat.le_sub_of_add_le (by rw [Nat.add_comm]; exact both)
    · rw [decided] at taken
      exact .inl (Option.some.inj taken).symm

/-- The invariant of the loop: each retry has cost one attempt, one token and its backoff. -/
structure Spent (policy : RetryPolicy) (admission : RetryAdmission) (attempt budget : Nat)
    (remaining : Duration) (s : RetryLoop) : Prop where
  counted : s.attempt = attempt + s.retries.length
  attempts : s.retries.length ≤ policy.maxAttempts.toNat - attempt
  tokens : s.budget.remaining + s.retries.length = budget
  admitted : admission.allowsRetryMetadata = false → s.retries = []
  time : totalBackoffMs s.retries * 1000000 + s.limit ≤ remaining.nanos
  reserve : ∀ r ∈ s.retries, r.LeavesReserve

theorem backoff_fits {earlier limit backoff left all : Nat} (within : left ≤ limit)
    (room : backoff ≤ left) (time : earlier + limit ≤ all) :
    backoff + earlier + (left - backoff) ≤ all := by omega

theorem spent_step {t : Tonic} {policy : RetryPolicy} {admission : RetryAdmission}
    {attempt budget : Nat} {remaining : Duration} {s u : RetryLoop} {f : Failure t}
    (held : Spent policy admission attempt budget remaining s)
    (taken : retryStep policy admission s f = some u) :
    Spent policy admission attempt budget remaining u := by
  obtain ⟨within, rfl | ⟨ms, room, reserve, admitted, attempts, tokens, rfl⟩⟩ :=
    retryStep_cases taken
  · exact ⟨held.counted, held.attempts, held.tokens, held.admitted, held.time, held.reserve⟩
  · have count := held.counted
    have spent := held.tokens
    have time := held.time
    refine ⟨?_, ?_, ?_, fun refused => ?_, ?_, ?_⟩
    · simp only [List.length_cons]
      omega
    · simp only [List.length_cons]
      omega
    · simp only [List.length_cons]
      omega
    · rw [admitted] at refused
      cases refused
    · rw [totalBackoffMs, Nat.add_mul]
      exact backoff_fits within room time
    · intro r member
      rcases List.mem_cons.mp member with rfl | earlier
      · exact reserve
      · exact held.reserve r earlier

/-- The retries of a call are bounded by its attempts, its budget and its deadline, in every
run and whatever the servers answer. -/
theorem retries_within_bounds {t : Tonic} (policy : RetryPolicy) (admission : RetryAdmission)
    (attempt budget : Nat) (remaining : Duration) (failures : List (Failure t)) (s : RetryLoop)
    (ends : run (retryStep policy admission) (.start attempt budget remaining) failures = some s) :
    WithinBounds policy admission attempt budget remaining s := by
  have initial : Spent policy admission attempt budget remaining
      (.start attempt budget remaining) := by
    refine ⟨rfl, Nat.zero_le _, rfl, fun _ => rfl, ?_, fun r member => (by cases member)⟩
    simp [RetryLoop.start, totalBackoffMs]
  have spent := run_preserves (retryStep policy admission) _
    (fun s f u held taken => spent_step held taken) failures _ s initial ends
  have tokens := spent.tokens
  exact ⟨spent.attempts, ⟨by omega, by omega⟩, spent.admitted,
    Nat.le_trans (Nat.le_add_right ..) spent.time, spent.reserve⟩

/- Three attempts; the service stays unavailable and the caller has three seconds. -/
def lowDraw : Jitter := ⟨fun _ => 0, fun _ => Nat.zero_le _⟩

def unavailable (secs : UInt64) : Failure http :=
  ⟨⟨.unavailable, emptyMap http⟩, .fromSecs secs, lowDraw⟩

theorem retries_within_bounds_of_three_seconds :
    ∃ s, run (retryStep (.forProfile .rpcDefault) ⟨false, false⟩) (.start 1 24 (.fromSecs 3))
        [unavailable 3, unavailable 2, unavailable 1] = some s ∧
      s.retries.length = 2 ∧ s.stopped = true ∧
      WithinBounds (.forProfile .rpcDefault) ⟨false, false⟩ 1 24 (.fromSecs 3) s := by
  have evaluated : (run (retryStep (.forProfile .rpcDefault) ⟨false, false⟩)
      (.start 1 24 (.fromSecs 3)) [unavailable 3, unavailable 2, unavailable 1]).map
        (fun s => (s.retries.length, s.stopped)) = some (2, true) := by decide +kernel
  obtain ⟨s, ends, shape⟩ := Option.map_eq_some_iff.mp evaluated
  obtain ⟨count, stopped⟩ := Prod.mk.inj shape
  exact ⟨s, ends, count, stopped, retries_within_bounds _ _ 1 24 _ _ s ends⟩

end SdkworkRpc.Resilience
