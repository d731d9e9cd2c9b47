import SdkworkRpc.Client.RetryBudget
import Mathlib.Order.Bounds.Basic

/-! The budget refuses no retry that it could have allowed. The tokens that a service has left
are the least that any window up to now leaves of its capacity and its refill. -/
namespace SdkworkRpc.Client

open Run Tokens

/-- What is left, at `now`, of the tokens that the window from `t0` on could have used. -/
def windowLeft (config : RetryBudgetConfig) (service : String) (h : List BudgetRecord)
    (now t0 : Nat) : ℚ :=
  config.capacity.toNat + config.refillPerSecond * asSeconds (now - t0) -
    grantsBetween service t0 now h

def Exact (config : RetryBudgetConfig) (clock : Nat) (h : List BudgetRecord) (service : String)
    (entry : Option TokenBucket) : Prop :=
  Balanced config clock h service entry ∧ ∀ b ∈ entry, ∃ t0,
    Tight (config.capacity.toNat : ℚ) config.refillPerSecond b.view (grantTimes service h)
      (asSeconds t0)

section

variable {config : RetryBudgetConfig}

theorem refilled_tight {entry : Option TokenBucket} {service : String} {clock created now : Nat}
    {h : List BudgetRecord} (held : Exact config clock h service entry) :
    ∃ t0, Tight (config.capacity.toNat : ℚ) config.refillPerSecond
      (refilledBucket config entry created now).view (grantTimes service h) (asSeconds t0) := by
  obtain ⟨balanced, tight⟩ := held
  have before : ∃ t0, Tight (config.capacity.toNat : ℚ) config.refillPerSecond
      (entry.getD (.new config.capacity created)).view (grantTimes service h) (asSeconds t0) ∧
      ∀ t ∈ grantTimes service h, t ≤ (entry.getD (.new config.capacity created)).view.last := by
    cases entry with
    | none =>
      have silent : grantTimes service h = [] := balanced
      rw [silent]
      exact ⟨created, tight_full _ _ _, nofun⟩
    | some b =>
      obtain ⟨t0, window⟩ := tight b rfl
      exact ⟨t0, window, balanced.2.past⟩
  obtain ⟨t0, window, past⟩ := before
  unfold refilledBucket
  rw [refill_view]
  rcases tight_refill window past (asSeconds now) with kept | opened
  · exact ⟨t0, kept⟩
  · exact ⟨now, opened⟩

theorem other_grantTimes {service : String} {r : BudgetRecord} (other : r.service ≠ service)
    (h : List BudgetRecord) : grantTimes service (r :: h) = grantTimes service h := by
  rw [grantTimes, if_neg (fun granted => other granted.1)]

variable (steady : 0 ≤ config.refillPerSecond)

include steady

theorem exact_step (s t : RetryBudgetRegistry) (a : BudgetAction)
    (held : ∀ service, Exact config s.clock s.history service (s.buckets service))
    (taken : budgetStep config s a = some t) (service : String) :
    Exact config t.clock t.history service (t.buckets service) := by
  refine ⟨balanced_step steady s t a (fun service => (held service).1) taken service, ?_⟩
  intro b found
  obtain ⟨refilled, -⟩ := refilled_account steady (held a.service).1
    (Nat.le_add_right s.clock a.wait) (Nat.le_add_right (s.clock + a.wait) a.pause)
  cases Option.some.inj taken
  by_cases same : service = a.service
  · subst same
    obtain ⟨t0, window⟩ := @refilled_tight config _ _ _ (s.clock + a.wait)
      (s.clock + a.wait + a.pause) _ (held a.service)
    refine ⟨t0, ?_⟩
    simp only [Function.update_self, Option.mem_some_iff] at found
    cases call : a.call with
    | availableTokens =>
      rw [call] at found
      cases found
      simpa only [availableTokens, grantTimes, reduceCtorEq, and_false, if_false] using window
    | tryAcquire =>
      rw [call] at found
      cases found
      have after := tight_take window
      rw [tryConsume_view] at after
      simp only [TokenBucket.view, refilled] at after
      simp only [tryAcquire, grantTimes, BudgetAnswer.acquired.injEq, true_and]
      exact after
  · simp only [Function.update_of_ne same] at found
    obtain ⟨t0, window⟩ := (held service).2 b found
    refine ⟨t0, ?_⟩
    rw [other_grantTimes (Ne.symm same)]
    exact window

theorem exact_run (calls : List BudgetAction) (s : RetryBudgetRegistry)
    (ends : run (budgetStep config) .start calls = some s) (service : String) :
    Exact config s.clock s.history service (s.buckets service) :=
  run_preserves (budgetStep config)
    (fun s => ∀ service, Exact config s.clock s.history service (s.buckets service))
    (fun s a t held taken => exact_step steady s t a held taken) calls .start s
    (fun _ => ⟨rfl, nofun⟩) ends service

theorem refilled_least {entry : Option TokenBucket} {service : String} {clock created now : Nat}
    {h : List BudgetRecord} (held : Exact config clock h service entry) (begins : clock ≤ created)
    (follows : created ≤ now) :
    IsLeast (windowLeft config service h now '' {t0 | t0 ≤ now})
      (refilledBucket config entry created now).tokens := by
  obtain ⟨refilled, account⟩ := refilled_account steady held.1 begins follows
  obtain ⟨t0, window⟩ := @refilled_tight config _ _ _ created now _ held
  obtain ⟨attained, least⟩ := tokens_least account window
  have last : (refilledBucket config entry created now).view.last = asSeconds now :=
    congrArg asSeconds refilled
  have left : ∀ {t}, t ≤ now → windowLeft config service h now t = config.capacity.toNat +
      config.refillPerSecond * (asSeconds now - asSeconds t) -
        inWindow (asSeconds t) (asSeconds now) (grantTimes service h) := by
    intro t within
    rw [windowLeft, grantsBetween_inWindow, asSeconds_sub within]
  rw [last] at attained least
  constructor
  · have within : t0 ≤ now := (asSeconds_le t0 now).mp (last ▸ window.1)
    exact ⟨t0, within, (left within).trans attained.symm⟩
  · rintro _ ⟨t, within, rfl⟩
    rw [left within]
    exact least (asSeconds t) ((asSeconds_le t now).mpr within)

end

/- After every history of calls on any services: what `available_tokens` returns is the least
that is left over any window up to now, and `try_acquire` grants a retry exactly when one
more would keep every such window within the capacity and its refill. -/
theorem retry_budget_exact (config : RetryBudgetConfig) (steady : 0 ≤ config.refillPerSecond)
    (calls : List BudgetAction) (s : RetryBudgetRegistry)
    (ends : run (budgetStep config) .start calls = some s) (service : String)
    (created now : Nat) (begins : s.clock ≤ created) (follows : created ≤ now) :
    IsLeast (windowLeft config service s.history now '' {t0 | t0 ≤ now})
      (availableTokens config (s.buckets service) created now).2 ∧
    ((tryAcquire config (s.buckets service) created now).2 = true ↔
      ∀ t0, t0 ≤ now → (grantsBetween service t0 now s.history : ℚ) + 1 ≤
        config.capacity.toNat + config.refillPerSecond * asSeconds (now - t0)) := by
  have least := refilled_least steady (exact_run steady calls s ends service) begins follows
  refine ⟨least, ?_⟩
  have granted : (tryAcquire config (s.buckets service) created now).2 = true ↔
      1 ≤ (refilledBucket config (s.buckets service) created now).tokens := by
    unfold tryAcquire TokenBucket.tryConsume
    split
    · rename_i enough
      exact iff_of_true rfl enough
    · rename_i short
      exact iff_of_false Bool.false_ne_true short
  rw [granted]
  constructor
  · intro enough t0 within
    have left := least.2 ⟨t0, within, rfl⟩
    unfold windowLeft at left
    linarith
  · intro room
    obtain ⟨t0, within, attained⟩ := least.1
    have left := room t0 within
    rw [← attained, windowLeft]
    linarith

theorem retry_budget_exact_two_tokens :
    ∃ s, run (budgetStep twoTokens) .start (fourRetries.take 2) = some s ∧
      (tryAcquire twoTokens (s.buckets "svc-b") 3 3).2 = false ∧
      ((tryAcquire twoTokens (s.buckets "svc-b") 3 3).2 = true ↔
        ∀ t0, t0 ≤ 3 → (grantsBetween "svc-b" t0 3 s.history : ℚ) + 1 ≤
          twoTokens.capacity.toNat + twoTokens.refillPerSecond * asSeconds (3 - t0)) :=
  ⟨_, rfl, by decide +kernel, (retry_budget_exact twoTokens zero_le_one (fourRetries.take 2) _
    rfl "svc-b" 3 3 (by decide) (le_refl _)).2⟩

end SdkworkRpc.Client
