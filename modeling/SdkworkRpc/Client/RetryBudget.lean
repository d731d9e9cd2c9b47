import SdkworkRpc.Library.TokenBucket
import SdkworkRpc.Library.Run
import Mathlib.Data.Rat.Cast.Order
import Mathlib.Logic.Function.Basic

/-! The retry budget that all calls to a service share. Token counts are exact rationals
where the source has floating point; clock readings are nanoseconds. Every call holds the
mutex of the registry from its first reading of the clock to its answer. -/
namespace SdkworkRpc.Client

open Run Tokens

structure RetryBudgetConfig where
  capacity : UInt32
  refillPerSecond : ℚ

structure TokenBucket where
  tokens : ℚ
  lastRefill : Nat
  deriving DecidableEq

/-- `as_secs_f64` of a number of nanoseconds. -/
def asSeconds (nanos : Nat) : ℚ := nanos / 1000000000

namespace TokenBucket

def new (filledTo : UInt32) (now : Nat) : TokenBucket := ⟨(filledTo.toNat : ℚ), now⟩

/-- An earlier reading than the last one counts as no time at all. -/
def refill (config : RetryBudgetConfig) (b : TokenBucket) (now : Nat) : TokenBucket :=
  let elapsed := asSeconds (now - b.lastRefill)
  if 0 < elapsed then
    let added := elapsed * config.refillPerSecond
    ⟨min (b.tokens + added) (config.capacity.toNat : ℚ), now⟩
  else b

def tryConsume (b : TokenBucket) : TokenBucket × Bool :=
  if 1 ≤ b.tokens then ({ b with tokens := b.tokens - 1 }, true) else (b, false)

end TokenBucket

/-- The bucket a call works on: the one of the service, or a full one made on the spot, and
in either case refilled. The clock is read once for the new bucket and once for the refill. -/
def refilledBucket (config : RetryBudgetConfig) (entry : Option TokenBucket)
    (created now : Nat) : TokenBucket :=
  (entry.getD (.new config.capacity created)).refill config now

def tryAcquire (config : RetryBudgetConfig) (entry : Option TokenBucket) (created now : Nat) :
    TokenBucket × Bool :=
  (refilledBucket config entry created now).tryConsume

def availableTokens (config : RetryBudgetConfig) (entry : Option TokenBucket)
    (created now : Nat) : TokenBucket × ℚ :=
  let bucket := refilledBucket config entry created now
  (bucket, bucket.tokens)

inductive BudgetCall where
  | tryAcquire
  | availableTokens
  deriving DecidableEq, Repr

inductive BudgetAnswer where
  | acquired (granted : Bool)
  | tokens (count : ℚ)
  deriving DecidableEq

/-- A call by some caller on some service: how long after the call before it, and how long
between its own two readings of the clock. -/
structure BudgetAction where
  service : String
  call : BudgetCall
  wait : Nat
  pause : Nat
  deriving DecidableEq, Repr

structure BudgetRecord where
  service : String
  time : Nat
  answer : BudgetAnswer
  deriving DecidableEq

structure RetryBudgetRegistry where
  buckets : String → Option TokenBucket
  clock : Nat
  history : List BudgetRecord

def RetryBudgetRegistry.start : RetryBudgetRegistry := ⟨fun _ => none, 0, []⟩

def serveBudget (config : RetryBudgetConfig) (entry : Option TokenBucket) (created now : Nat) :
    BudgetCall → TokenBucket × BudgetAnswer
  | .tryAcquire =>
    let (bucket, granted) := tryAcquire config entry created now
    (bucket, .acquired granted)
  | .availableTokens =>
    let (bucket, count) := availableTokens config entry created now
    (bucket, .tokens count)

def budgetStep (config : RetryBudgetConfig) (s : RetryBudgetRegistry) (a : BudgetAction) :
    Option RetryBudgetRegistry :=
  let created := s.clock + a.wait
  let now := created + a.pause
  let (bucket, answer) := serveBudget config (s.buckets a.service) created now a.call
  some ⟨Function.update s.buckets a.service (some bucket), now,
    ⟨a.service, now, answer⟩ :: s.history⟩

def grantTimes (service : String) : List BudgetRecord → List ℚ
  | [] => []
  | r :: h =>
    if r.service = service ∧ r.answer = .acquired true then asSeconds r.time :: grantTimes service h
    else grantTimes service h

/-- The calls of `try_acquire` on the service, at times from `t0` to `t1`, that returned true. -/
def grantsBetween (service : String) (t0 t1 : Nat) : List BudgetRecord → Nat
  | [] => 0
  | r :: h =>
    (if r.service = service ∧ r.answer = .acquired true ∧ t0 ≤ r.time ∧ r.time ≤ t1 then 1 else 0) +
      grantsBetween service t0 t1 h

theorem asSeconds_le (a b : Nat) : asSeconds a ≤ asSeconds b ↔ a ≤ b := by
  rw [asSeconds, asSeconds, div_le_div_iff_of_pos_right (by norm_num), Nat.cast_le]

theorem asSeconds_lt (a b : Nat) : asSeconds a < asSeconds b ↔ a < b :=
  lt_iff_lt_of_le_iff_le (asSeconds_le b a)

theorem asSeconds_sub {a b : Nat} (within : a ≤ b) :
    asSeconds (b - a) = asSeconds b - asSeconds a := by
  rw [asSeconds, asSeconds, asSeconds, Nat.cast_sub within, sub_div]

theorem grantsBetween_inWindow (service : String) (t0 t1 : Nat) (h : List BudgetRecord) :
    grantsBetween service t0 t1 h =
      inWindow (asSeconds t0) (asSeconds t1) (grantTimes service h) := by
  induction h with
  | nil => rfl
  | cons r rest ih =>
    rw [grantsBetween, grantTimes, ih]
    by_cases granted : r.service = service ∧ r.answer = .acquired true
    · rw [if_pos granted, inWindow]
      simp only [granted.1, granted.2, true_and, asSeconds_le]
    · rw [if_neg granted, if_neg (fun all => granted ⟨all.1, all.2.1⟩), Nat.zero_add]

def TokenBucket.view (b : TokenBucket) : Bucket ℚ := ⟨b.tokens, asSeconds b.lastRefill⟩

theorem refill_view (config : RetryBudgetConfig) (b : TokenBucket) (now : Nat) :
    (b.refill config now).view =
      b.view.refill (config.capacity.toNat : ℚ) config.refillPerSecond (asSeconds now) := by
  unfold TokenBucket.refill Bucket.refill
  simp only [TokenBucket.view, asSeconds_lt]
  by_cases later : b.lastRefill < now
  · have elapsed : 0 < asSeconds (now - b.lastRefill) := by
      rw [asSeconds_sub later.le, sub_pos, asSeconds_lt]
      exact later
    rw [if_pos elapsed, if_pos later, asSeconds_sub later.le]
  · have none_left : ¬ 0 < asSeconds (now - b.lastRefill) := by
      rw [Nat.sub_eq_zero_of_le (Nat.le_of_not_lt later)]
      norm_num [asSeconds]
    rw [if_neg none_left, if_neg later]

theorem tryConsume_view (b : TokenBucket) :
    b.view.take = (b.tryConsume.1.view, b.tryConsume.2) := by
  by_cases enough : 1 ≤ b.tokens
  · rw [TokenBucket.tryConsume, if_pos enough]
    exact if_pos enough
  · rw [TokenBucket.tryConsume, if_neg enough]
    exact if_neg enough

theorem refill_lastRefill {config : RetryBudgetConfig} {b : TokenBucket} {now : Nat}
    (later : b.lastRefill ≤ now) : (b.refill config now).lastRefill = now := by
  unfold TokenBucket.refill
  simp only
  split
  · rfl
  · rename_i none_left
    have : asSeconds now ≤ asSeconds b.lastRefill := by
      rw [asSeconds_sub later] at none_left
      linarith
    exact le_antisymm later ((asSeconds_le _ _).mp this)

/-- The bucket of a service against the grants in its history; a service without a bucket
has had no grant. -/
def Balanced (config : RetryBudgetConfig) (clock : Nat) (h : List BudgetRecord)
    (service : String) : Option TokenBucket → Prop
  | none => grantTimes service h = []
  | some b => b.lastRefill ≤ clock ∧
      Account (config.capacity.toNat : ℚ) config.refillPerSecond b.view (grantTimes service h)

section Steps

variable {config : RetryBudgetConfig} (steady : 0 ≤ config.refillPerSecond)

include steady

theorem refilled_account {entry : Option TokenBucket} {service : String} {clock created now : Nat}
    {h : List BudgetRecord} (held : Balanced config clock h service entry)
    (begins : clock ≤ created) (follows : created ≤ now) :
    (refilledBucket config entry created now).lastRefill = now ∧
      Account (config.capacity.toNat : ℚ) config.refillPerSecond
        (refilledBucket config entry created now).view (grantTimes service h) := by
  unfold refilledBucket
  cases entry with
  | none =>
    refine ⟨refill_lastRefill follows, ?_⟩
    rw [refill_view, held]
    exact account_refill steady (account_full (Nat.cast_nonneg _) steady _) _
  | some b =>
    refine ⟨refill_lastRefill (le_trans held.1 (le_trans begins follows)), ?_⟩
    rw [Option.getD_some, refill_view]
    exact account_refill steady held.2 _

theorem balanced_step (s t : RetryBudgetRegistry) (a : BudgetAction)
    (held : ∀ service, Balanced config s.clock s.history service (s.buckets service))
    (taken : budgetStep config s a = some t) (service : String) :
    Balanced config t.clock t.history service (t.buckets service) := by
  obtain ⟨refilled, account⟩ := refilled_account steady (held a.service)
    (Nat.le_add_right s.clock a.wait) (Nat.le_add_right (s.clock + a.wait) a.pause)
  cases Option.some.inj taken
  by_cases same : service = a.service
  · subst same
    simp only [Function.update_self]
    cases call : a.call with
    | availableTokens =>
      simp only [availableTokens, Balanced, grantTimes, reduceCtorEq, and_false,
        if_false]
      exact ⟨le_of_eq refilled, account⟩
    | tryAcquire =>
      have after := account_take steady account
      rw [tryConsume_view] at after
      simp only [TokenBucket.view, refilled] at after
      simp only [tryAcquire, Balanced, grantTimes, BudgetAnswer.acquired.injEq,
        true_and]
      refine ⟨?_, after⟩
      unfold TokenBucket.tryConsume
      split <;> exact le_of_eq refilled
  · have other : ∀ answer, grantTimes service
        (⟨a.service, s.clock + a.wait + a.pause, answer⟩ :: s.history) =
          grantTimes service s.history := by
      intro answer
      rw [grantTimes, if_neg (fun granted => same granted.1.symm)]
    simp only [Function.update_of_ne same]
    have before := held service
    cases entry : s.buckets service with
    | none =>
      rw [entry] at before
      exact (other _).trans before
    | some b =>
      rw [entry] at before
      refine ⟨le_trans before.1 (by omega), ?_⟩
      rw [other]
      exact before.2

end Steps

/-- In every history of calls the bucket of a service holds between none and all of its
tokens, and the retries granted in any window are at most the capacity and what the window
refills. -/
theorem retry_rate_bounded (config : RetryBudgetConfig) (steady : 0 ≤ config.refillPerSecond)
    (calls : List BudgetAction) (s : RetryBudgetRegistry)
    (ends : run (budgetStep config) .start calls = some s) (service : String) :
    (∀ b, s.buckets service = some b → 0 ≤ b.tokens ∧ b.tokens ≤ config.capacity.toNat) ∧
    ∀ t0 t1, t0 ≤ t1 → (grantsBetween service t0 t1 s.history : ℚ) ≤
      config.capacity.toNat + config.refillPerSecond * asSeconds (t1 - t0) := by
  have balanced := run_preserves (budgetStep config)
    (fun s => ∀ service, Balanced config s.clock s.history service (s.buckets service))
    (fun s a t held taken => balanced_step steady s t a held taken) calls .start s
    (fun _ => rfl) ends service
  cases entry : s.buckets service with
  | none =>
    rw [entry] at balanced
    refine ⟨fun b given => (by cases given), fun t0 t1 later => ?_⟩
    rw [grantsBetween_inWindow, balanced, asSeconds_sub later]
    have arrived : 0 ≤ config.refillPerSecond * (asSeconds t1 - asSeconds t0) :=
      mul_nonneg steady (sub_nonneg.mpr ((asSeconds_le t0 t1).mpr later))
    have room : (0 : ℚ) ≤ config.capacity.toNat := Nat.cast_nonneg _
    simp only [inWindow, Nat.cast_zero]
    linarith
  | some b =>
    rw [entry] at balanced
    refine ⟨fun c given => ?_, fun t0 t1 later => ?_⟩
    · cases Option.some.inj given
      exact ⟨balanced.2.nonneg, balanced.2.capped⟩
    · rw [grantsBetween_inWindow, asSeconds_sub later]
      exact balanced.2.bound _ _ ((asSeconds_le t0 t1).mpr later)

/- Two tokens and one more a second: the third of three retries at once is refused, and a
second later there is one again. -/
def twoTokens : RetryBudgetConfig := ⟨2, 1⟩

def fourRetries : List BudgetAction :=
  List.replicate 3 ⟨"svc-b", .tryAcquire, 1, 0⟩ ++ [⟨"svc-b", .tryAcquire, 1000000000, 0⟩]

theorem retry_rate_bounded_by_two_tokens :
    ∃ s, run (budgetStep twoTokens) .start fourRetries = some s ∧
      grantsBetween "svc-b" 1 3 s.history = 2 ∧ grantsBetween "svc-b" 1 1000000003 s.history = 3 ∧
      (grantsBetween "svc-b" 1 1000000003 s.history : ℚ) ≤ twoTokens.capacity.toNat +
        twoTokens.refillPerSecond * asSeconds (1000000003 - 1) :=
  ⟨_, rfl, by decide +kernel, by decide +kernel, (retry_rate_bounded twoTokens zero_le_one
    fourRetries _ rfl "svc-b").2 1 1000000003 (by decide)⟩

end SdkworkRpc.Client
