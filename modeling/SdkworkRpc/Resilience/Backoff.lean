import SdkworkRpc.Resilience.Retry

/-! The delays between attempts against the ceilings they are configured with. Retries
count in milliseconds; watch reconnects and lease renewals share one computation on
durations. -/
namespace SdkworkRpc.Resilience

open Machine

/-- The range a delay is drawn from: the initial delay doubled sixteen times at most, under
the ceiling. -/
def backoffBase (count : Nat) (initial maxBackoff : Duration) : Duration :=
  (initial.saturatingMul (2 ^ min count 16)).least maxBackoff

def backoffMillis (base : Duration) : Nat := min base.asMillis u64Max

def fullJitterBackoff (count : Nat) (initial maxBackoff : Duration) (draw : Jitter) : Duration :=
  let base := backoffBase count initial maxBackoff
  if base.isZero then initial
  else .fromMillis (draw.sample (backoffMillis base))
    (Nat.le_trans (draw.bounded _) (Nat.min_le_right _ _))

def reconnectBackoff (attempt : Nat) (initial maxBackoff : Duration) (draw : Jitter) : Duration :=
  fullJitterBackoff attempt initial maxBackoff draw

def renewBackoff (failures : Nat) (initial maxBackoff : Duration) (draw : Jitter) : Duration :=
  fullJitterBackoff failures initial maxBackoff draw

def longestBackoff (count : Nat) (initial maxBackoff : Duration) : Duration :=
  let base := backoffBase count initial maxBackoff
  if base.isZero then initial else .fromMillis (backoffMillis base) (Nat.min_le_right _ _)

def lastDraw : Jitter := ⟨id, fun base => Nat.le_refl base⟩

theorem doubled_zero_iff {top initial exponent ceiling : Nat} (room : 0 < top) :
    min (saturatingMul top initial (2 ^ exponent)) ceiling = 0 ↔ initial = 0 ∨ ceiling = 0 := by
  have grows : 2 ^ exponent ≠ 0 := Nat.ne_of_gt (Nat.two_pow_pos exponent)
  unfold saturatingMul
  constructor
  · intro none_left
    have product : initial * 2 ^ exponent = 0 ∨ ceiling = 0 := by omega
    exact product.imp_left fun zero => (Nat.mul_eq_zero.mp zero).resolve_right grows
  · rintro (zero | zero)
    · rw [zero, Nat.zero_mul]
      omega
    · omega

section Durations

variable (count : Nat) (initial maxBackoff : Duration)

theorem backoffBase_le : (backoffBase count initial maxBackoff).nanos ≤ maxBackoff.nanos := by
  rw [backoffBase, Duration.least_nanos]
  exact Nat.min_le_right _ _

theorem backoffBase_zero :
    (backoffBase count initial maxBackoff).isZero = true ↔
      initial.nanos = 0 ∨ maxBackoff.nanos = 0 := by
  rw [Duration.isZero_iff, backoffBase, Duration.least_nanos]
  exact doubled_zero_iff (by decide)

theorem backoffMillis_le (base : Duration) : backoffMillis base * 1000000 ≤ base.nanos :=
  Nat.le_trans (Nat.mul_le_mul_right _ (Nat.min_le_left _ _)) (Nat.div_mul_le_self _ _)

theorem fullJitterBackoff_le_longest (draw : Jitter) :
    (fullJitterBackoff count initial maxBackoff draw).nanos ≤
      (longestBackoff count initial maxBackoff).nanos := by
  simp only [fullJitterBackoff, longestBackoff]
  split
  · exact Nat.le_refl _
  · exact Nat.mul_le_mul_right _ (draw.bounded _)

theorem longestBackoff_le (ceiling : Nat) (first : initial.nanos ≤ ceiling)
    (most : maxBackoff.nanos ≤ ceiling) :
    (longestBackoff count initial maxBackoff).nanos ≤ ceiling := by
  simp only [longestBackoff]
  split
  · exact first
  · exact Nat.le_trans (backoffMillis_le _) (Nat.le_trans (backoffBase_le ..) most)

/-- Only a ceiling of zero is ever exceeded, by falling back to an initial delay. -/
theorem fullJitterBackoff_le_iff (draw : Jitter) :
    (fullJitterBackoff count initial maxBackoff draw).nanos ≤ maxBackoff.nanos ↔
      initial.nanos ≤ maxBackoff.nanos ∨ 0 < maxBackoff.nanos := by
  by_cases first : initial.nanos ≤ maxBackoff.nanos
  · have within := longestBackoff_le count initial maxBackoff _ first (Nat.le_refl _)
    have bounded := fullJitterBackoff_le_longest count initial maxBackoff draw
    exact iff_of_true (Nat.le_trans bounded within) (.inl first)
  by_cases room : 0 < maxBackoff.nanos
  · have drawn : ¬ (backoffBase count initial maxBackoff).isZero = true := by
      rw [backoffBase_zero]
      omega
    refine iff_of_true ?_ (.inr room)
    simp only [fullJitterBackoff, if_neg drawn]
    calc draw.sample _ * 1000000
        ≤ backoffMillis (backoffBase count initial maxBackoff) * 1000000 :=
          Nat.mul_le_mul_right _ (draw.bounded _)
      _ ≤ (backoffBase count initial maxBackoff).nanos := backoffMillis_le _
      _ ≤ maxBackoff.nanos := backoffBase_le ..
  · have fallsBack : (backoffBase count initial maxBackoff).isZero = true := by
      rw [backoffBase_zero]
      omega
    refine iff_of_false ?_ (by omega)
    simp only [fullJitterBackoff, if_pos fallsBack]
    exact first

end Durations

section Retries

variable (policy : RetryPolicy) (attempt : Nat) (draw : Jitter)

theorem jitterBase_zero :
    jitterBase policy attempt = 0 ↔
      policy.initialBackoffMs.toNat = 0 ∨ policy.maxBackoffMs.toNat = 0 :=
  doubled_zero_iff (by decide)

theorem retryBackoffMs_initial (first : attempt = 0 ∨ policy.maxBackoffMs.toNat = 0) :
    retryBackoffMs policy attempt draw = policy.initialBackoffMs.toNat := by
  unfold retryBackoffMs
  rcases first with first | closed
  · rw [if_pos first]
  · have fallsBack := (jitterBase_zero policy attempt).mpr (.inr closed)
    rw [if_pos fallsBack, ite_self]

theorem retryBackoffMs_le (later : attempt ≠ 0) (room : 0 < policy.maxBackoffMs.toNat) :
    retryBackoffMs policy attempt draw ≤ policy.maxBackoffMs.toNat := by
  unfold retryBackoffMs
  rw [if_neg later]
  split
  · -- With room under the ceiling only an initial delay of zero leaves nothing to draw from.
    rename_i fallsBack
    rcases (jitterBase_zero policy attempt).mp fallsBack with zero | closed
    · rw [zero]
      exact Nat.zero_le _
    · omega
  · exact Nat.le_trans (draw.bounded _) (Nat.min_le_right _ _)

end Retries

/-- Every delay keeps to its ceiling, for every policy, configuration and draw, but for the
retries that wait their initial delay as it is configured. -/
theorem delays_keep_to_ceiling :
    (∀ (policy : RetryPolicy) (attempt : Nat) (draw : Jitter),
      (attempt = 0 ∨ policy.maxBackoffMs.toNat = 0 →
        retryBackoffMs policy attempt draw = policy.initialBackoffMs.toNat) ∧
      (attempt ≠ 0 → 0 < policy.maxBackoffMs.toNat →
        retryBackoffMs policy attempt draw ≤ policy.maxBackoffMs.toNat)) ∧
    (∀ (policy : RetryPolicy) (attempt : Nat) (draw : Jitter),
      (∀ pushback, effectiveRetryBackoffMs policy attempt draw (some pushback) ≤
        policy.maxBackoffMs.toNat) ∧
      (attempt = 0 ∨ policy.maxBackoffMs.toNat = 0 →
        effectiveRetryBackoffMs policy attempt draw none = policy.initialBackoffMs.toNat) ∧
      (attempt ≠ 0 → 0 < policy.maxBackoffMs.toNat →
        effectiveRetryBackoffMs policy attempt draw none ≤ policy.maxBackoffMs.toNat)) ∧
    ∀ (count : Nat) (initial maxBackoff : Duration) (draw : Jitter),
      initial.nanos ≤ maxBackoff.nanos ∨ 0 < maxBackoff.nanos →
        (reconnectBackoff count initial maxBackoff draw).nanos ≤ maxBackoff.nanos ∧
        (renewBackoff count initial maxBackoff draw).nanos ≤ maxBackoff.nanos := by
  refine ⟨?_, ?_, ?_⟩
  · intro policy attempt draw
    exact ⟨retryBackoffMs_initial policy attempt draw, retryBackoffMs_le policy attempt draw⟩
  · intro policy attempt draw
    refine ⟨fun pushback => Nat.min_le_right _ _, ?_, ?_⟩
    · exact retryBackoffMs_initial policy attempt draw
    · exact retryBackoffMs_le policy attempt draw
  · intro count initial maxBackoff draw allowed
    have within := (fullJitterBackoff_le_iff count initial maxBackoff draw).mpr allowed
    exact ⟨within, within⟩

/- A ceiling below the initial delay: the first retry waits 100 ms against one of 10 ms. -/
def lowCeiling : RetryPolicy := ⟨3, 8, 100, 10, [.unavailable]⟩

theorem later_retry_kept :
    retryBackoffMs lowCeiling 3 lastDraw ≤ lowCeiling.maxBackoffMs.toNat ∧
    effectiveRetryBackoffMs lowCeiling 0 lastDraw (some 70) ≤ lowCeiling.maxBackoffMs.toNat ∧
    (reconnectBackoff 4 (.fromSecs 1) (.fromSecs 10) lastDraw).nanos ≤
      (Duration.fromSecs 10).nanos ∧
    (renewBackoff 4 (.fromSecs 1) (.fromSecs 10) lastDraw).nanos ≤
      (Duration.fromSecs 10).nanos := by
  obtain ⟨retries, pushedBack, loops⟩ := delays_keep_to_ceiling
  refine ⟨?_, ?_, ?_⟩
  · exact (retries lowCeiling 3 lastDraw).2 (by decide) (by decide)
  · exact (pushedBack lowCeiling 0 lastDraw).1 70
  · exact loops 4 (.fromSecs 1) (.fromSecs 10) lastDraw (.inl (by decide))

theorem first_retry_over_ceiling :
    retryBackoffMs lowCeiling 0 lastDraw = 100 ∧
    effectiveRetryBackoffMs lowCeiling 0 lastDraw none = 100 ∧
    lowCeiling.maxBackoffMs.toNat = 10 := by
  decide

end SdkworkRpc.Resilience
