import SdkworkRpc.Client.RetryBudget
import SdkworkRpc.Library.Observation

/-! What other callers and readers of the registry can do to the retries of one service:
nothing. Reading the tokens makes the bucket, refills it and moves its last refill, but
the bucket goes through the same levels as one that was left alone. -/
namespace SdkworkRpc.Client

open Run Tokens Observation

structure TimedBudgetCall where
  service : String
  call : BudgetCall
  created : Nat
  now : Nat
  deriving DecidableEq, Repr

def TimedBudgetCall.acquires (service : String) (c : TimedBudgetCall) : Bool :=
  c.service == service && c.call == .tryAcquire

def timedServe (config : RetryBudgetConfig) (buckets : String → Option TokenBucket)
    (c : TimedBudgetCall) : (String → Option TokenBucket) × BudgetAnswer :=
  let (bucket, answer) := serveBudget config (buckets c.service) c.created c.now c.call
  (Function.update buckets c.service (some bucket), answer)

def budgetActions : Nat → List TimedBudgetCall → List BudgetAction
  | _, [] => []
  | clock, c :: rest =>
    ⟨c.service, c.call, c.created - clock, c.now - c.created⟩ :: budgetActions c.now rest

/-- The tokens a call would find at the given time. -/
def level (config : RetryBudgetConfig) (entry : Option TokenBucket) (now : Nat) : ℚ :=
  (refilledBucket config entry now now).tokens

/-- Both last refilled by the given time, and at one level from then on. -/
def SameLevel (config : RetryBudgetConfig) (service : String) (now : Nat)
    (first second : String → Option TokenBucket) : Prop :=
  (∀ b, first service = some b → b.lastRefill ≤ now) ∧
  (∀ b, second service = some b → b.lastRefill ≤ now) ∧
  ∀ later, now ≤ later → level config (first service) later = level config (second service) later

theorem view_injective {b c : TokenBucket} (same : b.view = c.view) : b = c := by
  obtain ⟨tokens, last⟩ := b
  obtain ⟨tokens', last'⟩ := c
  obtain ⟨rfl, seconds⟩ := Bucket.mk.inj same
  have : last = last' :=
    le_antisymm ((asSeconds_le _ _).mp seconds.le) ((asSeconds_le _ _).mp seconds.ge)
  rw [this]

theorem tryConsume_lastRefill (b : TokenBucket) : b.tryConsume.1.lastRefill = b.lastRefill := by
  unfold TokenBucket.tryConsume
  split <;> rfl

section Calls

variable {config : RetryBudgetConfig} {buckets : String → Option TokenBucket}
  {c : TimedBudgetCall} {service : String}

theorem timedServe_other (away : c.service ≠ service) :
    (timedServe config buckets c).1 service = buckets service :=
  Function.update_of_ne (Ne.symm away) _ _

theorem timedServe_trying (ours : c.service = service) (tries : c.call = .tryAcquire) :
    timedServe config buckets c =
      (Function.update buckets service
        (some (refilledBucket config (buckets service) c.created c.now).tryConsume.1),
       .acquired (refilledBucket config (buckets service) c.created c.now).tryConsume.2) := by
  subst ours
  rw [timedServe, tries]
  rfl

theorem timedServe_reading (ours : c.service = service) (hides : c.acquires service = false) :
    (timedServe config buckets c).1 service =
      some (refilledBucket config (buckets service) c.created c.now) := by
  subst ours
  cases reads : c.call with
  | tryAcquire => simp [TimedBudgetCall.acquires, reads] at hides
  | availableTokens =>
    rw [timedServe, reads]
    exact Function.update_self ..

end Calls

section Levels

variable {config : RetryBudgetConfig} (steady : 0 ≤ config.refillPerSecond)

include steady

theorem refill_new {created now : Nat} (follows : created ≤ now) :
    (TokenBucket.new config.capacity created).refill config now = .new config.capacity now := by
  apply view_injective
  rw [refill_view]
  exact refill_full steady ((asSeconds_le _ _).mpr follows)

theorem refill_twice (b : TokenBucket) {early late : Nat} (later : early ≤ late) :
    (b.refill config early).refill config late = b.refill config late := by
  apply view_injective
  rw [refill_view, refill_view, refill_view]
  exact refill_refill steady b.view ((asSeconds_le _ _).mpr later)

/-- A call finds the level of its own time, whenever the bucket was made. -/
theorem refilledBucket_level {entry : Option TokenBucket} {created now : Nat}
    (past : ∀ b, entry = some b → b.lastRefill ≤ now) (follows : created ≤ now) :
    refilledBucket config entry created now = ⟨level config entry now, now⟩ := by
  cases entry with
  | none =>
    simp only [level, refilledBucket, Option.getD_none]
    rw [refill_new steady follows, refill_new steady (Nat.le_refl now)]
    rfl
  | some b =>
    have moved : (b.refill config now).lastRefill = now := refill_lastRefill (past b rfl)
    change b.refill config now = ⟨(b.refill config now).tokens, now⟩
    generalize b.refill config now = refilled at moved ⊢
    subst moved
    rfl

/-- Refilling changes no later level, whether or not there was a bucket to refill. -/
theorem level_refilled {entry : Option TokenBucket} {created now later : Nat}
    (follows : created ≤ now) (after : now ≤ later) :
    level config (some (refilledBucket config entry created now)) later =
      level config entry later := by
  cases entry with
  | none =>
    simp only [level, refilledBucket, Option.getD_none, Option.getD_some]
    rw [refill_new steady follows, refill_new steady after, refill_new steady (Nat.le_refl later)]
  | some b =>
    simp only [level, refilledBucket, Option.getD_some]
    rw [refill_twice steady b after]

theorem budget_unwinding (service : String) :
    Unwinding (timedServe config) (TimedBudgetCall.acquires service) TimedBudgetCall.created
      TimedBudgetCall.now (SameLevel config service) where
  hidden := by
    intro clock first second c ⟨left, right, same⟩ begins follows hides
    have along : clock ≤ c.now := begins.trans follows
    refine ⟨?_, fun b hb => (right b hb).trans along, fun later after => ?_⟩
    · intro b hb
      by_cases ours : c.service = service
      · rw [timedServe_reading ours hides] at hb
        cases Option.some.inj hb
        rw [refilledBucket_level steady (fun b hb => (left b hb).trans along) follows]
      · rw [timedServe_other ours] at hb
        exact (left b hb).trans along
    · rw [← same later (along.trans after)]
      by_cases ours : c.service = service
      · rw [timedServe_reading ours hides, level_refilled steady follows after]
      · rw [timedServe_other ours]
  alike := by
    intro clock first second c ⟨left, right, same⟩ begins follows shows
    obtain ⟨ours, tries⟩ : c.service = service ∧ c.call = .tryAcquire := by
      simpa [TimedBudgetCall.acquires] using shows
    have along : clock ≤ c.now := begins.trans follows
    -- Both registries hand the call the same bucket, so it leaves the same bucket behind.
    have found : refilledBucket config (first service) c.created c.now =
        refilledBucket config (second service) c.created c.now := by
      rw [refilledBucket_level steady (fun b hb => (left b hb).trans along) follows,
        refilledBucket_level steady (fun b hb => (right b hb).trans along) follows,
        same c.now along]
    have refilled :
        (refilledBucket config (second service) c.created c.now).lastRefill = c.now := by
      rw [refilledBucket_level steady (fun b hb => (right b hb).trans along) follows]
    rw [timedServe_trying ours tries, timedServe_trying ours tries, found]
    simp only [SameLevel, Function.update_self, Option.some.injEq, forall_eq',
      tryConsume_lastRefill, refilled, Nat.le_refl, implies_true, and_self]

end Levels

theorem timed_registry (config : RetryBudgetConfig) (history : List TimedBudgetCall)
    (s : RetryBudgetRegistry)
    (timed : Timed TimedBudgetCall.created TimedBudgetCall.now s.clock history) :
    ∃ t, run (budgetStep config) s (budgetActions s.clock history) = some t ∧
      t.history.map (·.answer) =
        (observed (timedServe config) (fun _ => true) s.buckets history).reverse ++
          s.history.map (·.answer) := by
  induction history generalizing s with
  | nil => exact ⟨s, rfl, rfl⟩
  | cons c rest ih =>
    obtain ⟨later, follows, timed⟩ := timed
    have created : s.clock + (c.created - s.clock) = c.created := Nat.add_sub_of_le later
    have reached : c.created + (c.now - c.created) = c.now := Nat.add_sub_of_le follows
    let u : RetryBudgetRegistry := ⟨(timedServe config s.buckets c).1, c.now,
      ⟨c.service, c.now, (timedServe config s.buckets c).2⟩ :: s.history⟩
    have taken : budgetStep config s
        ⟨c.service, c.call, c.created - s.clock, c.now - c.created⟩ = some u := by
      simp only [budgetStep, created, reached]
      rfl
    obtain ⟨t, ends, answers⟩ := ih u timed
    refine ⟨t, ?_, ?_⟩
    · rw [budgetActions, run, taken]
      exact ends
    · rw [answers, observed, if_pos rfl, List.reverse_cons, List.append_assoc]
      rfl

/-- Two histories with the same attempts on a service grant it the same retries, whatever
else is read or tried in between. -/
theorem retries_independent (config : RetryBudgetConfig) (steady : 0 ≤ config.refillPerSecond)
    (service : String) (first second : List TimedBudgetCall)
    (before : Timed TimedBudgetCall.created TimedBudgetCall.now 0 first)
    (after : Timed TimedBudgetCall.created TimedBudgetCall.now 0 second)
    (agree : first.filter (TimedBudgetCall.acquires service) =
      second.filter (TimedBudgetCall.acquires service)) :
    observed (timedServe config) (TimedBudgetCall.acquires service) (fun _ => none) first =
      observed (timedServe config) (TimedBudgetCall.acquires service) (fun _ => none) second :=
  observed_congr (budget_unwinding steady service) ⟨nofun, nofun, fun _ _ => rfl⟩ before after agree

/- One token, and half a token a second. The first history reads the bucket before it is
used, after it was emptied and while it refills, and another service retries too. -/
def slowRefill : RetryBudgetConfig := ⟨1, 1 / 2⟩

def watchedRetries : List TimedBudgetCall :=
  [⟨"svc-b", .availableTokens, 0, 0⟩, ⟨"svc-b", .tryAcquire, 1000000000, 1000000000⟩,
    ⟨"svc-c", .tryAcquire, 1000000000, 1000000001⟩,
    ⟨"svc-b", .availableTokens, 1500000000, 1500000000⟩,
    ⟨"svc-b", .tryAcquire, 2000000000, 2000000000⟩,
    ⟨"svc-b", .tryAcquire, 3000000000, 3000000000⟩]

def unwatchedRetries : List TimedBudgetCall :=
  [⟨"svc-b", .tryAcquire, 1000000000, 1000000000⟩,
    ⟨"svc-b", .tryAcquire, 2000000000, 2000000000⟩,
    ⟨"svc-b", .tryAcquire, 3000000000, 3000000000⟩]

theorem watched_retries_granted :
    observed (timedServe slowRefill) (TimedBudgetCall.acquires "svc-b") (fun _ => none)
        watchedRetries =
      observed (timedServe slowRefill) (TimedBudgetCall.acquires "svc-b") (fun _ => none)
        unwatchedRetries ∧
    observed (timedServe slowRefill) (TimedBudgetCall.acquires "svc-b") (fun _ => none)
        unwatchedRetries = [.acquired true, .acquired false, .acquired true] :=
  ⟨retries_independent slowRefill (by norm_num [slowRefill]) "svc-b" watchedRetries
    unwatchedRetries (by simp [Timed, watchedRetries]) (by simp [Timed, unwatchedRetries])
    (by decide), by decide +kernel⟩

end SdkworkRpc.Client
