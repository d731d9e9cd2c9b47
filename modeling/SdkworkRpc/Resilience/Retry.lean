import SdkworkRpc.Library.Machine
import SdkworkRpc.Client.Metadata

/-! Retry policies and the decision to retry one failed call, with and without the
pushback that a server may send. A decision returns the tracker it leaves behind. -/
namespace SdkworkRpc.Resilience

open Machine Client

inductive Code where
  | ok | cancelled | unknown | invalidArgument | deadlineExceeded | notFound | alreadyExists
  | permissionDenied | resourceExhausted | failedPrecondition | aborted | outOfRange
  | unimplemented | internal | unavailable | dataLoss | unauthenticated
  deriving DecidableEq, Repr

inductive ResilienceProfile where
  | rpcReadOnly | rpcIdempotentWrite | rpcCriticalWrite | rpcStream | rpcLocalDev | rpcDefault
  deriving DecidableEq, Repr

structure RetryPolicy where
  maxAttempts : UInt32
  retryBudget : UInt32
  initialBackoffMs : UInt64
  maxBackoffMs : UInt64
  retryableCodes : List Code
  deriving DecidableEq

def RetryPolicy.forProfile : ResilienceProfile → RetryPolicy
  | .rpcReadOnly => ⟨3, 32, 50, 2000, [.unavailable, .resourceExhausted]⟩
  | .rpcIdempotentWrite => ⟨2, 16, 100, 2000, [.unavailable]⟩
  | .rpcCriticalWrite => ⟨1, 4, 100, 500, []⟩
  | .rpcStream => ⟨1, 4, 100, 500, []⟩
  | .rpcLocalDev => ⟨5, 64, 25, 1000, [.unavailable, .resourceExhausted]⟩
  | .rpcDefault => ⟨3, 24, 50, 2000, [.unavailable]⟩

/-- One use of the random number generator: whatever range is asked for, the sample
lies in it. -/
structure Jitter where
  sample : Nat → Nat
  bounded : ∀ base, sample base ≤ base

def jitterBase (policy : RetryPolicy) (attempt : Nat) : Nat :=
  min (saturatingMul u64Max policy.initialBackoffMs.toNat (2 ^ min (attempt - 1) 16))
    policy.maxBackoffMs.toNat

def retryBackoffMs (policy : RetryPolicy) (attempt : Nat) (draw : Jitter) : Nat :=
  if attempt = 0 then policy.initialBackoffMs.toNat
  else if jitterBase policy attempt = 0 then policy.initialBackoffMs.toNat
  else draw.sample (jitterBase policy attempt)

def minRpcDeadlineReserveMs : Nat := 10

def rpcEstimateMs (backoffMs : Nat) : Nat := max (backoffMs / 2) minRpcDeadlineReserveMs

def deadlineCoversBackoff (backoffMs : Nat) (remaining : Duration) : Bool :=
  let requiredMs := saturatingAdd u64Max backoffMs (rpcEstimateMs backoffMs)
  match u64TryFrom remaining.asMillis with
  | some remainingMs => decide (requiredMs ≤ remainingMs)
  | none => true

structure RetryBudgetTracker where
  remaining : Nat
  deriving DecidableEq, Repr

def RetryBudgetTracker.consume (budget : RetryBudgetTracker) : Bool × RetryBudgetTracker :=
  if budget.remaining = 0 then (false, budget) else (true, ⟨budget.remaining - 1⟩)

def RetryPolicy.allowsRetry (policy : RetryPolicy) (code : Code) (remainingBudget : Nat) : Bool :=
  decide (0 < remainingBudget) && decide (code ∈ policy.retryableCodes)

def RetryPolicy.shouldRetryWithDeadline (policy : RetryPolicy) (code : Code) (attempt : Nat)
    (budget : RetryBudgetTracker) (remaining : Duration) (draw : Jitter) :
    Bool × RetryBudgetTracker :=
  if policy.maxAttempts.toNat ≤ attempt then (false, budget)
  else if policy.allowsRetry code budget.remaining = false then (false, budget)
  else if deadlineCoversBackoff (retryBackoffMs policy attempt draw) remaining = false then
    (false, budget)
  else budget.consume

def RetryPolicy.shouldRetry (policy : RetryPolicy) (code : Code) (attempt : Nat)
    (budget : RetryBudgetTracker) (draw : Jitter) : Bool × RetryBudgetTracker :=
  policy.shouldRetryWithDeadline code attempt budget .max draw

structure RetryAdmission where
  methodRequiresIdempotency : Bool
  hasIdempotencyKey : Bool
  deriving DecidableEq, Repr

def RetryAdmission.allowsRetryMetadata (admission : RetryAdmission) : Bool :=
  !(admission.methodRequiresIdempotency && !admission.hasIdempotencyKey)

def shouldRetryCallWithDeadline (policy : RetryPolicy) (code : Code) (attempt : Nat)
    (budget : RetryBudgetTracker) (admission : RetryAdmission) (remaining : Duration)
    (draw : Jitter) : Bool × RetryBudgetTracker :=
  if admission.allowsRetryMetadata = false then (false, budget)
  else policy.shouldRetryWithDeadline code attempt budget remaining draw

def shouldRetryCall (policy : RetryPolicy) (code : Code) (attempt : Nat)
    (budget : RetryBudgetTracker) (admission : RetryAdmission) (draw : Jitter) :
    Bool × RetryBudgetTracker :=
  shouldRetryCallWithDeadline policy code attempt budget admission .max draw

structure Status (t : Tonic) where
  code : Code
  metadata : MetadataMap t

def grpcRetryPushbackMs : String := "grpc-retry-pushback-ms"

def extractRetryPushbackMs {t : Tonic} (status : Status t) : Option Nat := do
  let value ← status.metadata.get grpcRetryPushbackMs
  let text ← value.toStr
  Text.parseUnsigned u64Max text

def effectiveRetryBackoffMs (policy : RetryPolicy) (attempt : Nat) (draw : Jitter) :
    Option Nat → Nat
  | some ms => min ms policy.maxBackoffMs.toNat
  | none => retryBackoffMs policy attempt draw

inductive RetryDecision where
  | stop
  | retry (backoffMs : Nat)
  deriving DecidableEq, Repr

/-- The pushback a decision looks at: only an exhausted resource has one. -/
def pushbackMs {t : Tonic} (status : Status t) : Option Nat :=
  if status.code = .resourceExhausted then extractRetryPushbackMs status else none

def codeAllowed {t : Tonic} (policy : RetryPolicy) (status : Status t) : Bool :=
  if status.code = .resourceExhausted then
    (pushbackMs status).isSome && decide (status.code ∈ policy.retryableCodes)
  else decide (status.code ∈ policy.retryableCodes)

def shouldRetryCallWithPushback {t : Tonic} (policy : RetryPolicy) (status : Status t)
    (attempt : Nat) (budget : RetryBudgetTracker) (admission : RetryAdmission)
    (remaining : Duration) (draw : Jitter) : RetryDecision × RetryBudgetTracker :=
  if admission.allowsRetryMetadata = false then (.stop, budget)
  else if policy.maxAttempts.toNat ≤ attempt then (.stop, budget)
  else if codeAllowed policy status = false then (.stop, budget)
  else
    let backoffMs := effectiveRetryBackoffMs policy attempt draw (pushbackMs status)
    if deadlineCoversBackoff backoffMs remaining = false then (.stop, budget)
    else match budget.consume with
      | (false, budget) => (.stop, budget)
      | (true, budget) => (.retry backoffMs, budget)

section Bounds

variable (policy : RetryPolicy) (attempt : Nat) (draw : Jitter)

theorem retryBackoffMs_fits : retryBackoffMs policy attempt draw ≤ u64Max := by
  have initial : policy.initialBackoffMs.toNat ≤ u64Max :=
    Nat.le_sub_one_of_lt policy.initialBackoffMs.toNat_lt
  have ceiling : policy.maxBackoffMs.toNat ≤ u64Max :=
    Nat.le_sub_one_of_lt policy.maxBackoffMs.toNat_lt
  unfold retryBackoffMs
  split
  · exact initial
  · split
    · exact initial
    · calc draw.sample (jitterBase policy attempt)
        _ ≤ jitterBase policy attempt := draw.bounded _
        _ ≤ policy.maxBackoffMs.toNat := Nat.min_le_right ..
        _ ≤ u64Max := ceiling

theorem effectiveRetryBackoffMs_fits (pushback : Option Nat) :
    effectiveRetryBackoffMs policy attempt draw pushback ≤ u64Max := by
  cases pushback with
  | some ms =>
    exact Nat.le_trans (Nat.min_le_right ..) (Nat.le_sub_one_of_lt policy.maxBackoffMs.toNat_lt)
  | none => exact retryBackoffMs_fits policy attempt draw

/-- A deadline that covers a backoff leaves room for it, and for the call after it
unless the two together exceed what a u64 can hold. -/
theorem deadline_leaves_room {backoffMs : Nat} {remaining : Duration} (fits : backoffMs ≤ u64Max)
    (covers : deadlineCoversBackoff backoffMs remaining = true) :
    backoffMs * 1000000 ≤ remaining.nanos ∧
    (backoffMs + rpcEstimateMs backoffMs ≤ u64Max →
      (backoffMs + rpcEstimateMs backoffMs) * 1000000 ≤ remaining.nanos) := by
  have whole : remaining.asMillis * 1000000 ≤ remaining.nanos := Nat.div_mul_le_self ..
  have room : ∀ ms, ms ≤ remaining.asMillis → ms * 1000000 ≤ remaining.nanos :=
    fun ms within => Nat.le_trans (Nat.mul_le_mul_right _ within) whole
  simp only [deadlineCoversBackoff, u64TryFrom] at covers
  -- Milliseconds beyond a u64 are taken for no deadline at all.
  by_cases bounded : remaining.asMillis ≤ u64Max
  · rw [if_pos bounded] at covers
    have required := of_decide_eq_true covers
    constructor
    · exact room _ (Nat.le_trans (Nat.le_min.mpr ⟨Nat.le_add_right .., fits⟩) required)
    · intro together
      rw [saturatingAdd_of_le together] at required
      exact room _ required
  · have beyond := Nat.le_of_lt (Nat.lt_of_not_le bounded)
    exact ⟨room _ (Nat.le_trans fits beyond), fun together => room _ (Nat.le_trans together beyond)⟩

end Bounds

section Decisions

variable {t : Tonic} (policy : RetryPolicy) (attempt : Nat) (budget : RetryBudgetTracker)
  (admission : RetryAdmission) (remaining : Duration) (draw : Jitter)

/-- All that must hold for a retry, whatever the order of the checks. -/
structure Retryable (allowed : Bool) (backoffMs : Nat) : Prop where
  admitted : admission.allowsRetryMetadata = true
  attempts : attempt < policy.maxAttempts.toNat
  code : allowed = true
  deadline : deadlineCoversBackoff backoffMs remaining = true
  tokens : 0 < budget.remaining

variable {policy attempt budget admission remaining}

theorem consume_some (tokens : 0 < budget.remaining) :
    budget.consume = (true, ⟨budget.remaining - 1⟩) := if_neg (by omega)

theorem consume_none (empty : ¬ 0 < budget.remaining) : budget.consume = (false, budget) :=
  if_pos (by omega)

variable (policy attempt budget admission remaining)

theorem pushback_decision (status : Status t) :
    let backoffMs := effectiveRetryBackoffMs policy attempt draw (pushbackMs status)
    let decided := shouldRetryCallWithPushback policy status attempt budget admission remaining draw
    (Retryable policy attempt budget admission remaining (codeAllowed policy status) backoffMs ∧
      decided = (.retry backoffMs, ⟨budget.remaining - 1⟩)) ∨
    (¬ Retryable policy attempt budget admission remaining (codeAllowed policy status) backoffMs ∧
      decided = (.stop, budget)) := by
  intro backoffMs decided
  by_cases admitted : admission.allowsRetryMetadata = true
  case neg =>
    exact .inr ⟨fun r => admitted r.admitted, if_pos (Bool.eq_false_iff.mpr admitted)⟩
  by_cases attempts : attempt < policy.maxAttempts.toNat
  case neg =>
    refine .inr ⟨fun r => attempts r.attempts, ?_⟩
    simp [decided, shouldRetryCallWithPushback, admitted, Nat.le_of_not_lt attempts]
  by_cases code : codeAllowed policy status = true
  case neg =>
    refine .inr ⟨fun r => code r.code, ?_⟩
    simp [decided, shouldRetryCallWithPushback, code]
  by_cases deadline : deadlineCoversBackoff backoffMs remaining = true
  case neg =>
    refine .inr ⟨fun r => deadline r.deadline, ?_⟩
    simp [decided, shouldRetryCallWithPushback, Bool.eq_false_iff.mpr deadline, backoffMs]
  have reached : decided = match budget.consume with
      | (false, budget) => (.stop, budget)
      | (true, budget) => (.retry backoffMs, budget) := by
    simp [decided, shouldRetryCallWithPushback, admitted, Nat.not_le_of_lt attempts, code,
      deadline, backoffMs]
  by_cases tokens : 0 < budget.remaining
  · exact .inl ⟨⟨admitted, attempts, code, deadline, tokens⟩, by rw [reached, consume_some tokens]⟩
  · exact .inr ⟨fun r => tokens r.tokens, by rw [reached, consume_none tokens]⟩

theorem deadline_decision (code : Code) :
    let backoffMs := retryBackoffMs policy attempt draw
    let allowed := decide (code ∈ policy.retryableCodes)
    let decided := shouldRetryCallWithDeadline policy code attempt budget admission remaining draw
    (Retryable policy attempt budget admission remaining allowed backoffMs ∧
      decided = (true, ⟨budget.remaining - 1⟩)) ∨
    (¬ Retryable policy attempt budget admission remaining allowed backoffMs ∧
      decided = (false, budget)) := by
  intro backoffMs allowed decided
  by_cases admitted : admission.allowsRetryMetadata = true
  case neg =>
    exact .inr ⟨fun r => admitted r.admitted, if_pos (Bool.eq_false_iff.mpr admitted)⟩
  by_cases attempts : attempt < policy.maxAttempts.toNat
  case neg =>
    refine .inr ⟨fun r => attempts r.attempts, ?_⟩
    simp [decided, shouldRetryCallWithDeadline, RetryPolicy.shouldRetryWithDeadline,
      Nat.le_of_not_lt attempts]
  by_cases tokens : 0 < budget.remaining
  case neg =>
    refine .inr ⟨fun r => tokens r.tokens, ?_⟩
    simp [decided, shouldRetryCallWithDeadline, RetryPolicy.shouldRetryWithDeadline,
      RetryPolicy.allowsRetry, tokens]
  by_cases listed : allowed = true
  case neg =>
    refine .inr ⟨fun r => listed r.code, ?_⟩
    have unlisted : code ∉ policy.retryableCodes := fun member => listed (decide_eq_true member)
    simp [decided, shouldRetryCallWithDeadline, RetryPolicy.shouldRetryWithDeadline,
      RetryPolicy.allowsRetry, unlisted]
  by_cases deadline : deadlineCoversBackoff backoffMs remaining = true
  case neg =>
    refine .inr ⟨fun r => deadline r.deadline, ?_⟩
    simp [decided, shouldRetryCallWithDeadline, RetryPolicy.shouldRetryWithDeadline,
      Bool.eq_false_iff.mpr deadline, backoffMs]
  refine .inl ⟨⟨admitted, attempts, listed, deadline, tokens⟩, ?_⟩
  simp [decided, shouldRetryCallWithDeadline, RetryPolicy.shouldRetryWithDeadline, admitted,
    Nat.not_le_of_lt attempts, RetryPolicy.allowsRetry, tokens, of_decide_eq_true listed, deadline,
    backoffMs, consume_some tokens]

end Decisions

end SdkworkRpc.Resilience
