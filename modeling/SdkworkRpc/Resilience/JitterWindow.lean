import SdkworkRpc.Resilience.Backoff
import Mathlib.Data.Set.Operations

/-! The windows that delays are drawn from. The computations are written out once more with
every operation that can panic returning nothing where it would, to show that none does. -/
namespace SdkworkRpc.Resilience

open Machine

/-- Doubling under a ceiling, over numbers without a bound. -/
def clampedExponential (initial exponent ceiling : Nat) : Nat :=
  min (initial * 2 ^ exponent) ceiling

theorem clampedExponential_mono {initial exponent later ceiling : Nat} (grows : exponent ≤ later) :
    clampedExponential initial exponent ceiling ≤ clampedExponential initial later ceiling := by
  have power : 2 ^ exponent ≤ 2 ^ later := Nat.pow_le_pow_right (by decide) grows
  have product : initial * 2 ^ exponent ≤ initial * 2 ^ later := Nat.mul_le_mul_left _ power
  unfold clampedExponential
  omega

/-- `random_range` of an inclusive range, which panics when the range is empty. -/
def Jitter.randomRange (draw : Jitter) (low high : Nat) : Option Nat :=
  if low ≤ high then some (low + draw.sample (high - low)) else none

theorem Jitter.randomRange_zero (draw : Jitter) (high : Nat) :
    draw.randomRange 0 high = some (draw.sample high) := by
  rw [randomRange, if_pos (Nat.zero_le _), Nat.zero_add, Nat.sub_zero]

theorem Jitter.reaches {high drawn : Nat} (inside : drawn ≤ high) :
    ∃ draw : Jitter, draw.sample high = drawn :=
  ⟨⟨fun base => min drawn base, fun _ => Nat.min_le_right _ _⟩, Nat.min_eq_left inside⟩

/-! ## Retries -/

def retryBackoffMsOrPanic (policy : RetryPolicy) (attempt : Nat) (draw : Jitter) : Option Nat :=
  if attempt = 0 then some policy.initialBackoffMs.toNat
  else do
    let factor ← shiftedOne 64 (min (attempt - 1) 16)
    let base := min (saturatingMul u64Max policy.initialBackoffMs.toNat factor)
      policy.maxBackoffMs.toNat
    if base = 0 then some policy.initialBackoffMs.toNat else draw.randomRange 0 base

def retryWindow (policy : RetryPolicy) (attempt : Nat) : Nat :=
  clampedExponential policy.initialBackoffMs.toNat (min (attempt - 1) 16)
    policy.maxBackoffMs.toNat

section Retries

variable (policy : RetryPolicy) (attempt : Nat)

theorem jitterBase_exact : jitterBase policy attempt = retryWindow policy attempt :=
  saturatingMul_clamped _ _ (Nat.le_of_lt_succ policy.maxBackoffMs.toNat_lt)

theorem retryBackoffMs_total (draw : Jitter) :
    retryBackoffMsOrPanic policy attempt draw = some (retryBackoffMs policy attempt draw) := by
  have inside : min (attempt - 1) 16 < 64 := Nat.lt_of_le_of_lt (Nat.min_le_right _ _) (by decide)
  unfold retryBackoffMsOrPanic retryBackoffMs
  split
  · rfl
  · rw [shiftedOne_some inside, Option.bind_eq_bind, Option.bind_some]
    change (if jitterBase policy attempt = 0 then _ else _) = _
    split
    · rfl
    · exact draw.randomRange_zero _

theorem range_retryBackoffMs (later : 1 ≤ attempt) (room : 0 < retryWindow policy attempt) :
    Set.range (retryBackoffMs policy attempt) = {drawn | drawn ≤ retryWindow policy attempt} := by
  rw [← jitterBase_exact] at room ⊢
  have sampled : ∀ draw, retryBackoffMs policy attempt draw =
      draw.sample (jitterBase policy attempt) := by
    intro draw
    rw [retryBackoffMs, if_neg (Nat.ne_of_gt later), if_neg (Nat.ne_of_gt room)]
  ext ms
  constructor
  · rintro ⟨draw, rfl⟩
    rw [sampled]
    exact draw.bounded _
  · intro inside
    obtain ⟨draw, result⟩ := Jitter.reaches inside
    exact ⟨draw, (sampled draw).trans result⟩

theorem retryWindow_mono {later : Nat} (follows : attempt ≤ later) :
    retryWindow policy attempt ≤ retryWindow policy later := by
  apply clampedExponential_mono
  omega

end Retries

/-! ## Reconnects and renewals -/

def fullJitterBackoffOrPanic (count : Nat) (initial maxBackoff : Duration) (draw : Jitter) :
    Option Duration := do
  let factor ← shiftedOne 32 (min count 16)
  let base := (initial.saturatingMul factor).least maxBackoff
  if base.isZero then some initial
  else
    -- The cast keeps the low 64 bits.
    let millis ← draw.randomRange 0 (min base.asMillis u64Max % 2 ^ 64)
    if fits : millis ≤ u64Max then some (.fromMillis millis fits) else none

def reconnectBackoffOrPanic (attempt : Nat) (initial maxBackoff : Duration) (draw : Jitter) :
    Option Duration := fullJitterBackoffOrPanic attempt initial maxBackoff draw

def renewBackoffOrPanic (failures : Nat) (initial maxBackoff : Duration) (draw : Jitter) :
    Option Duration := fullJitterBackoffOrPanic failures initial maxBackoff draw

def delayWindow (count : Nat) (initial maxBackoff : Duration) : Nat :=
  clampedExponential initial.nanos (min count 16) maxBackoff.nanos

def windowMillis (window : Nat) : Nat := min (window / 1000000) u64Max

section Delays

variable (count : Nat) (initial maxBackoff : Duration)

theorem backoffBase_exact :
    (backoffBase count initial maxBackoff).nanos = delayWindow count initial maxBackoff := by
  rw [backoffBase, Duration.least_nanos]
  exact saturatingMul_clamped _ _ maxBackoff.fits

theorem backoffMillis_exact :
    backoffMillis (backoffBase count initial maxBackoff) =
      windowMillis (delayWindow count initial maxBackoff) := by
  rw [← backoffBase_exact]
  rfl

theorem fullJitterBackoff_total (draw : Jitter) :
    fullJitterBackoffOrPanic count initial maxBackoff draw =
      some (fullJitterBackoff count initial maxBackoff draw) := by
  have inside : min count 16 < 32 := Nat.lt_of_le_of_lt (Nat.min_le_right _ _) (by decide)
  have kept : min (backoffBase count initial maxBackoff).asMillis u64Max % 2 ^ 64 =
      backoffMillis (backoffBase count initial maxBackoff) :=
    Nat.mod_eq_of_lt (Nat.lt_of_le_of_lt (Nat.min_le_right _ _) (by decide))
  have fits := Nat.le_trans (draw.bounded (backoffMillis (backoffBase count initial maxBackoff)))
    (Nat.min_le_right _ _)
  unfold fullJitterBackoffOrPanic
  rw [shiftedOne_some inside, Option.bind_eq_bind, Option.bind_some]
  change (if (backoffBase count initial maxBackoff).isZero = true then _ else
    (draw.randomRange 0 (min (backoffBase count initial maxBackoff).asMillis u64Max % 2 ^ 64)).bind
      _) = _
  by_cases zero : (backoffBase count initial maxBackoff).isZero = true
  · simp only [fullJitterBackoff, if_pos zero]
  · simp only [fullJitterBackoff, if_neg zero]
    rw [kept, draw.randomRange_zero, Option.bind_some, dif_pos fits]

theorem range_fullJitterBackoff (room : 0 < delayWindow count initial maxBackoff) :
    Set.range (fun draw => (fullJitterBackoff count initial maxBackoff draw).nanos) =
      {nanos | ∃ millis ≤ windowMillis (delayWindow count initial maxBackoff),
        nanos = millis * 1000000} := by
  have drawn : ¬ (backoffBase count initial maxBackoff).isZero = true := by
    rw [Duration.isZero_iff, backoffBase_exact]
    exact Nat.ne_of_gt room
  have sampled : ∀ draw, (fullJitterBackoff count initial maxBackoff draw).nanos =
      draw.sample (windowMillis (delayWindow count initial maxBackoff)) * 1000000 := by
    intro draw
    simp only [fullJitterBackoff, if_neg drawn, Duration.fromMillis, backoffMillis_exact]
  ext nanos
  constructor
  · rintro ⟨draw, rfl⟩
    exact ⟨_, draw.bounded _, sampled draw⟩
  · rintro ⟨millis, inside, rfl⟩
    obtain ⟨draw, result⟩ := Jitter.reaches inside
    exact ⟨draw, (sampled draw).trans (congrArg (· * 1000000) result)⟩

theorem delayWindow_mono {later : Nat} (follows : count ≤ later) :
    delayWindow count initial maxBackoff ≤ delayWindow later initial maxBackoff := by
  apply clampedExponential_mono
  omega

end Delays

theorem windowMillis_mono {window wider : Nat} (grows : window ≤ wider) :
    windowMillis window ≤ windowMillis wider := by
  have quotient : window / 1000000 ≤ wider / 1000000 := Nat.div_le_div_right grows
  unfold windowMillis
  omega

/-- No draw panics, each is made from the whole of its window and from nothing else, and
no later window is narrower. -/
def ExactWindow (backoff : Nat → Duration → Duration → Jitter → Duration)
    (orPanic : Nat → Duration → Duration → Jitter → Option Duration) : Prop :=
  ∀ count initial maxBackoff,
    (∀ draw, orPanic count initial maxBackoff draw =
      some (backoff count initial maxBackoff draw)) ∧
    (0 < delayWindow count initial maxBackoff →
      Set.range (fun draw => (backoff count initial maxBackoff draw).nanos) =
        {nanos | ∃ millis ≤ windowMillis (delayWindow count initial maxBackoff),
          nanos = millis * 1000000}) ∧
    ∀ later, count ≤ later →
      delayWindow count initial maxBackoff ≤ delayWindow later initial maxBackoff ∧
      windowMillis (delayWindow count initial maxBackoff) ≤
        windowMillis (delayWindow later initial maxBackoff)

theorem fullJitter_exact : ExactWindow fullJitterBackoff fullJitterBackoffOrPanic := by
  intro count initial maxBackoff
  refine ⟨fullJitterBackoff_total count initial maxBackoff,
    range_fullJitterBackoff count initial maxBackoff, ?_⟩
  intro later follows
  have grows := delayWindow_mono count initial maxBackoff follows
  exact ⟨grows, windowMillis_mono grows⟩

/- For every policy, pair of durations and attempt: saturation, the shift, the cast and the
inclusive range leave the clamped exponential as it is. -/
theorem jitter_windows_exact :
    (∀ (policy : RetryPolicy) (attempt : Nat), 1 ≤ attempt →
      (∀ draw, retryBackoffMsOrPanic policy attempt draw =
        some (retryBackoffMs policy attempt draw)) ∧
      (0 < retryWindow policy attempt →
        Set.range (retryBackoffMs policy attempt) = {ms | ms ≤ retryWindow policy attempt}) ∧
      ∀ later, attempt ≤ later → retryWindow policy attempt ≤ retryWindow policy later) ∧
    ExactWindow reconnectBackoff reconnectBackoffOrPanic ∧
    ExactWindow renewBackoff renewBackoffOrPanic := by
  refine ⟨?_, fullJitter_exact, fullJitter_exact⟩
  intro policy attempt first
  refine ⟨retryBackoffMs_total policy attempt, range_retryBackoffMs policy attempt first, ?_⟩
  intro later follows
  exact retryWindow_mono policy attempt follows

theorem default_window_at_three :
    Set.range (retryBackoffMs (RetryPolicy.forProfile .rpcDefault) 3) = {ms | ms ≤ 200} := by
  have window : retryWindow (RetryPolicy.forProfile .rpcDefault) 3 = 200 := by decide
  rw [← window]
  exact (jitter_windows_exact.1 _ 3 (by decide)).2.1 (by decide)

end SdkworkRpc.Resilience
