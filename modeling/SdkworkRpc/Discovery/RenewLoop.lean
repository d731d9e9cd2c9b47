import SdkworkRpc.Discovery.Registration
import SdkworkRpc.Resilience.Backoff
import SdkworkRpc.Server.ServeLifecycle

/-! The renew loop against the lease it keeps alive. Only sleeping takes time here: a
renewal is answered at once, with success or failure. -/
namespace SdkworkRpc.Discovery

open Machine Run Resilience

structure RenewLoopConfig where
  initialBackoff : Duration
  maxBackoff : Duration
  maxConsecutiveFailures : UInt32

inductive RenewLog where
  | recovered (previousFailures : Nat)
  | backingOff (consecutiveFailures : Nat)
  | beyondThreshold (consecutiveFailures : Nat)
  deriving DecidableEq, Repr

/-- The loop between two renewals: its failures in a row, the nanoseconds slept since the
last success or since registration, and the sleeps before each success so far. -/
structure RenewLoop where
  failures : Nat
  slept : Nat
  gaps : List Nat
  logged : List RenewLog
  deriving DecidableEq

def RenewLoop.start : RenewLoop := ⟨0, 0, [], []⟩

structure Renewal where
  draw : Jitter
  succeeds : Bool

def sleepNanos (handle : DiscoveryInstanceHandle) (config : RenewLoopConfig) (failures : Nat)
    (draw : Jitter) : Nat :=
  if failures = 0 then handle.renewInterval.nanos
  else (renewBackoff failures config.initialBackoff config.maxBackoff draw).nanos

def renewRound (handle : DiscoveryInstanceHandle) (config : RenewLoopConfig) (s : RenewLoop)
    (r : Renewal) : Option RenewLoop :=
  let slept := s.slept + sleepNanos handle config s.failures r.draw
  if r.succeeds then
    some ⟨0, 0, slept :: s.gaps,
      if 0 < s.failures then .recovered s.failures :: s.logged else s.logged⟩
  else
    let failures := saturatingAdd u32Max s.failures 1
    some ⟨failures, slept, s.gaps,
      (if config.maxConsecutiveFailures.toNat ≤ failures then .beyondThreshold failures
        else .backingOff failures) :: s.logged⟩

def Recovers (s : RenewLoop) (r : Renewal) : Prop := s.failures ≠ 0 → r.succeeds = true

def LeaseKept (config : DiscoveryInstanceConfig) (s : RenewLoop) : Prop :=
  ∀ gap ∈ s.gaps, gap < (Duration.fromSecs config.leaseTtlSeconds).nanos

/-- The renew task of the server's lifecycle counts its failures as the rounds do. -/
theorem renewRound_task {handle : DiscoveryInstanceHandle} {config : RenewLoopConfig}
    {s t : RenewLoop} {r : Renewal} (taken : renewRound handle config s r = some t) :
    ∃ e, Server.renewStep (.renewing s.failures) (.reply r.succeeds) =
      some (.sleeping t.failures, e) := by
  cases answer : r.succeeds with
  | true =>
    rw [renewRound, if_pos answer] at taken
    cases Option.some.inj taken
    exact ⟨_, rfl⟩
  | false =>
    rw [renewRound, if_neg (by simp [answer])] at taken
    cases Option.some.inj taken
    exact ⟨_, rfl⟩

theorem handle_interval [SdkworkUtils] {config : DiscoveryInstanceConfig} {leaseId : String}
    {handle : DiscoveryInstanceHandle} (made : config.handle leaseId = .ok handle) :
    handle.renewInterval.nanos = max config.leaseTtlSeconds.toNat 3 / 3 * 1000000000 := by
  unfold DiscoveryInstanceConfig.handle at made
  split at made
  · cases made
  · cases Except.ok.inj made
    have larger : (max config.leaseTtlSeconds 3).toNat = max config.leaseTtlSeconds.toNat 3 := by
      change (if config.leaseTtlSeconds ≤ 3 then (3 : UInt64) else config.leaseTtlSeconds).toNat = _
      split
      · rename_i small
        exact (Nat.max_eq_right (UInt64.le_iff_toNat_le.mp small)).symm
      · rename_i large
        exact (Nat.max_eq_left (Nat.le_of_not_le (mt UInt64.le_iff_toNat_le.mpr large))).symm
    simp only [Duration.fromSecs, UInt64.toNat_div, larger]
    rfl

section Rounds

variable (handle : DiscoveryInstanceHandle) (config : RenewLoopConfig)

/-- The most that the loop sleeps between two successes with one failure between them. -/
def longestGap : Nat :=
  handle.renewInterval.nanos +
    (longestBackoff 1 config.initialBackoff config.maxBackoff).nanos

/-- At most one failure stands, and every success so far came in time. -/
structure Paced (s : RenewLoop) : Prop where
  waiting : s.failures = 0 ∧ s.slept = 0 ∨
    s.failures = 1 ∧ s.slept = handle.renewInterval.nanos
  short : ∀ gap ∈ s.gaps, gap ≤ longestGap handle config

variable {handle config}

theorem Paced.sleep {s : RenewLoop} (held : Paced handle config s) (draw : Jitter) :
    s.slept + sleepNanos handle config s.failures draw ≤ longestGap handle config := by
  rcases held.waiting with ⟨steady, rested⟩ | ⟨failed, rested⟩
  · rw [sleepNanos, if_pos steady, rested, Nat.zero_add]
    exact Nat.le_add_right ..
  · rw [sleepNanos, failed, if_neg Nat.one_ne_zero, rested]
    exact Nat.add_le_add_left (fullJitterBackoff_le_longest ..) _

theorem paced_round (s : RenewLoop) (r : Renewal) (t : RenewLoop) (held : Paced handle config s)
    (recovers : Recovers s r) (taken : renewRound handle config s r = some t) :
    Paced handle config t := by
  cases answer : r.succeeds with
  | true =>
    rw [renewRound, if_pos answer] at taken
    cases Option.some.inj taken
    refine ⟨.inl ⟨rfl, rfl⟩, fun gap member => ?_⟩
    rcases List.mem_cons.mp member with rfl | earlier
    · exact held.sleep r.draw
    · exact held.short gap earlier
  | false =>
    have steady : s.failures = 0 := by
      by_contra failing
      rw [recovers failing] at answer
      cases answer
    have rested : s.slept = 0 := by
      rcases held.waiting with ⟨_, rested⟩ | ⟨failed, _⟩
      · exact rested
      · omega
    rw [renewRound, if_neg (by simp [answer])] at taken
    cases Option.some.inj taken
    refine ⟨.inr ⟨by rw [steady]; rfl, ?_⟩, held.short⟩
    rw [sleepNanos, if_pos steady, rested, Nat.zero_add]

variable (handle config)

def missedOnce : List Renewal := [⟨lastDraw, false⟩, ⟨lastDraw, true⟩]

theorem missedOnce_gap :
    ∃ s, run (renewRound handle config) .start missedOnce = some s ∧
      Along (renewRound handle config) Recovers .start missedOnce ∧
      s.gaps = [longestGap handle config] := by
  refine ⟨_, rfl,
    ⟨fun failing => absurd rfl failing, fun t _ => ⟨fun _ => rfl, fun u _ => trivial⟩⟩, ?_⟩
  change [0 + handle.renewInterval.nanos + _] = _
  rw [Nat.zero_add]
  rfl

/-- Over all runs that recover from each failure at once, the longest gap is the bound. -/
theorem lease_kept_iff (lease : DiscoveryInstanceConfig) :
    (∀ rounds s, run (renewRound handle config) .start rounds = some s →
      Along (renewRound handle config) Recovers .start rounds → LeaseKept lease s) ↔
    longestGap handle config < (Duration.fromSecs lease.leaseTtlSeconds).nanos := by
  constructor
  · intro kept
    obtain ⟨s, ends, recovers, gaps⟩ := missedOnce_gap handle config
    exact kept missedOnce s ends recovers _ (by rw [gaps]; exact List.mem_cons_self)
  · intro early rounds s ends recovers gap member
    have paced := run_invariant (renewRound handle config) Recovers (Paced handle config)
      paced_round rounds .start s ⟨.inl ⟨rfl, rfl⟩, nofun⟩ recovers ends
    exact Nat.lt_of_le_of_lt (paced.short gap member) early

end Rounds

theorem gap_below_lease_iff {ttl second longest : Nat} (positive : 0 < second)
    (most : longest ≤ max ttl 3 / 3 * second) :
    max ttl 3 / 3 * second + longest < ttl * second ↔ 3 ≤ ttl ∨ ttl = 2 ∧ longest < second := by
  by_cases large : 3 ≤ ttl
  · refine iff_of_true ?_ (.inl large)
    rw [Nat.max_eq_left large] at most ⊢
    have thirds : 2 * (ttl / 3) < ttl := by omega
    calc ttl / 3 * second + longest
        ≤ ttl / 3 * second + ttl / 3 * second := Nat.add_le_add_left most _
      _ = 2 * (ttl / 3) * second := by rw [← Nat.add_mul, ← Nat.two_mul]
      _ < ttl * second := Nat.mul_lt_mul_of_pos_right thirds positive
  · have single : max ttl 3 / 3 = 1 := by rw [Nat.max_eq_right (by omega)]
    rw [single, Nat.one_mul]
    rcases (by omega : ttl = 0 ∨ ttl = 1 ∨ ttl = 2) with rfl | rfl | rfl <;> omega

/-- The lease outlives a single missed renewal exactly when it is granted for three seconds
or more, or for two with every first backoff below one second. -/
theorem lease_outlives_missed_renewal_iff [SdkworkUtils] (lease : DiscoveryInstanceConfig)
    (leaseId : String) (handle : DiscoveryInstanceHandle) (made : lease.handle leaseId = .ok handle)
    (config : RenewLoopConfig)
    (first : config.initialBackoff.nanos ≤ handle.renewInterval.nanos)
    (most : config.maxBackoff.nanos ≤ handle.renewInterval.nanos) :
    (∀ rounds s, run (renewRound handle config) .start rounds = some s →
      Along (renewRound handle config) Recovers .start rounds → LeaseKept lease s) ↔
    3 ≤ lease.leaseTtlSeconds.toNat ∨ lease.leaseTtlSeconds.toNat = 2 ∧
      (longestBackoff 1 config.initialBackoff config.maxBackoff).nanos < 1000000000 := by
  have interval := handle_interval made
  have longest := longestBackoff_le 1 config.initialBackoff config.maxBackoff _ first most
  rw [lease_kept_iff, longestGap, interval]
  rw [interval] at longest
  exact gap_below_lease_iff (by decide) longest

attribute [local instance] languageUtils

/- A renewal interval of one second, which backoffs may use in full. -/
def leaseOf (ttl : UInt64) : DiscoveryInstanceConfig :=
  { sharedConfig 0 with leaseTtlSeconds := ttl }

def everySecond : DiscoveryInstanceHandle := ⟨"lease-a", .fromSecs 1⟩

def fullSecond : RenewLoopConfig := ⟨.fromSecs 1, .fromSecs 1, 3⟩

theorem lease_of_three_seconds_kept :
    ∃ s, run (renewRound everySecond fullSecond) .start missedOnce = some s ∧
      s.gaps = [longestGap everySecond fullSecond] ∧ LeaseKept (leaseOf 3) s := by
  have kept := (lease_outlives_missed_renewal_iff (leaseOf 3) "lease-a" everySecond rfl fullSecond
    (Nat.le_refl _) (Nat.le_refl _)).mpr (.inl (by decide))
  obtain ⟨s, ends, recovers, gaps⟩ := missedOnce_gap everySecond fullSecond
  exact ⟨s, ends, gaps, kept missedOnce s ends recovers⟩

/- A lease of one second has run out when its first renewal is sent. One of two seconds runs
out when that renewal fails and the backoff takes the second it may. -/
theorem short_leases_run_out :
    (leaseOf 1).validate = .ok () ∧ (leaseOf 1).handle "lease-a" = .ok everySecond ∧
    (leaseOf 2).validate = .ok () ∧ (leaseOf 2).handle "lease-a" = .ok everySecond ∧
    (∃ s, run (renewRound everySecond fullSecond) .start [⟨lastDraw, true⟩] = some s ∧
      Along (renewRound everySecond fullSecond) Recovers .start [⟨lastDraw, true⟩] ∧
      ¬ LeaseKept (leaseOf 1) s) ∧
    ∃ s, run (renewRound everySecond fullSecond) .start missedOnce = some s ∧
      Along (renewRound everySecond fullSecond) Recovers .start missedOnce ∧
      ¬ LeaseKept (leaseOf 2) s := by
  refine ⟨rfl, rfl, rfl, rfl, ⟨_, rfl, ⟨fun _ => rfl, fun _ _ => trivial⟩, fun kept => ?_⟩, ?_⟩
  · exact absurd (kept _ List.mem_cons_self) (by decide)
  · obtain ⟨s, ends, recovers, gaps⟩ := missedOnce_gap everySecond fullSecond
    refine ⟨s, ends, recovers, fun kept => ?_⟩
    exact absurd (kept _ (by rw [gaps]; exact List.mem_cons_self)) (by decide)

end SdkworkRpc.Discovery
