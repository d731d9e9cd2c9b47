import SdkworkRpc.Discovery.RenewLoop

/-! How many renewals in a row may fail before the lease has run out, and whether the loop has
raised its alarm by then. -/
namespace SdkworkRpc.Discovery

open Machine Run Resilience

def RenewLoopConfig.default : RenewLoopConfig := ⟨.fromSecs 1, .fromSecs 10, 3⟩

section

variable (handle : DiscoveryInstanceHandle) (config : RenewLoopConfig)

/-- The most that the loop sleeps from a success to the end of as many backoffs. -/
def longestSilence : Nat → Nat
  | 0 => handle.renewInterval.nanos
  | n + 1 => longestSilence n +
      (longestBackoff (n + 1) config.initialBackoff config.maxBackoff).nanos

def RecoversWithin (misses : Nat) (s : RenewLoop) (r : Renewal) : Prop :=
  misses ≤ s.failures → r.succeeds = true

theorem longestSilence_mono {n m : Nat} (more : n ≤ m) :
    longestSilence handle config n ≤ longestSilence handle config m := by
  induction more with
  | refl => exact Nat.le_refl _
  | step _ ih => exact Nat.le_trans ih (Nat.le_add_right _ _)

/-- What the loop has slept since its last success, and what it said about its failures. The
counter stops at its largest value while the sleeps go on. -/
structure Silence (s : RenewLoop) : Prop where
  fits : s.failures ≤ u32Max
  slept : s.failures = 0 ∧ s.slept = 0 ∨ s.failures = u32Max ∨
    ∃ n, s.failures = n + 1 ∧ s.slept ≤ longestSilence handle config n
  said : 0 < s.failures → s.logged.head? =
    some (if config.maxConsecutiveFailures.toNat ≤ s.failures then .beyondThreshold s.failures
      else .backingOff s.failures)
  calm : s.failures = 0 → ∀ failures, s.logged.head? ≠ some (.beyondThreshold failures)

theorem silence_start : Silence handle config .start :=
  ⟨Nat.zero_le _, .inl ⟨rfl, rfl⟩, fun failed => absurd failed (Nat.lt_irrefl 0), fun _ _ => nofun⟩

variable {handle config}

theorem Silence.sleep {s : RenewLoop} (held : Silence handle config s) (draw : Jitter)
    (counting : s.failures < u32Max) :
    s.slept + sleepNanos handle config s.failures draw ≤
      longestSilence handle config s.failures := by
  rcases held.slept with ⟨steady, rested⟩ | full | ⟨n, failed, rested⟩
  · rw [steady, sleepNanos, if_pos rfl, rested, Nat.zero_add]
    exact Nat.le_refl _
  · omega
  · rw [failed, sleepNanos, if_neg (Nat.succ_ne_zero n)]
    exact Nat.add_le_add rested (fullJitterBackoff_le_longest ..)

theorem silence_round (s : RenewLoop) (r : Renewal) (t : RenewLoop)
    (held : Silence handle config s) (taken : renewRound handle config s r = some t) :
    Silence handle config t := by
  cases answer : r.succeeds with
  | true =>
    rw [renewRound, if_pos answer] at taken
    cases Option.some.inj taken
    refine ⟨Nat.zero_le _, .inl ⟨rfl, rfl⟩, fun failed => absurd failed (Nat.lt_irrefl 0), ?_⟩
    intro _ failures
    -- A success after failures says so; one after a success says nothing.
    by_cases failing : 0 < s.failures
    · rw [if_pos failing]
      intro said
      cases said
    · rw [if_neg failing]
      exact held.calm (Nat.eq_zero_of_not_pos failing) failures
  | false =>
    rw [renewRound, if_neg (by simp [answer])] at taken
    cases Option.some.inj taken
    have counted : 0 < saturatingAdd u32Max s.failures 1 :=
      Nat.lt_min.mpr ⟨Nat.succ_pos _, by decide⟩
    refine ⟨Nat.min_le_right _ _, ?_, fun _ => rfl, fun none => absurd none (Nat.ne_of_gt counted)⟩
    by_cases counting : s.failures < u32Max
    · rw [saturatingAdd_of_le counting]
      exact .inr (.inr ⟨s.failures, rfl, held.sleep r.draw counting⟩)
    · have full : saturatingAdd u32Max s.failures 1 = u32Max := by
        unfold saturatingAdd
        omega
      exact .inr (.inl full)

/-- Never more failures in a row than allowed, and no success later than after all of them. -/
structure PacedWithin (handle : DiscoveryInstanceHandle) (config : RenewLoopConfig) (misses : Nat)
    (s : RenewLoop) : Prop where
  silence : Silence handle config s
  within : s.failures ≤ misses
  short : ∀ gap ∈ s.gaps, gap ≤ longestSilence handle config misses

theorem pacedWithin_round {misses : Nat} (countable : misses < u32Max) (s : RenewLoop)
    (r : Renewal) (t : RenewLoop) (held : PacedWithin handle config misses s)
    (recovers : RecoversWithin misses s r) (taken : renewRound handle config s r = some t) :
    PacedWithin handle config misses t := by
  have silence := silence_round s r t held.silence taken
  have within := held.within
  have slept := held.silence.sleep r.draw (by omega)
  cases answer : r.succeeds with
  | true =>
    rw [renewRound, if_pos answer] at taken
    cases Option.some.inj taken
    refine ⟨silence, Nat.zero_le _, fun gap member => ?_⟩
    rcases List.mem_cons.mp member with rfl | earlier
    · exact Nat.le_trans slept (longestSilence_mono handle config within)
    · exact held.short gap earlier
  | false =>
    have room : s.failures < misses := by
      by_contra full
      rw [recovers (Nat.le_of_not_lt full)] at answer
      cases answer
    rw [renewRound, if_neg (by simp [answer])] at taken
    cases Option.some.inj taken
    refine ⟨silence, ?_, held.short⟩
    simp only [saturatingAdd]
    omega

variable (handle config)

def allMissed (misses : Nat) : List Renewal := List.replicate misses ⟨lastDraw, false⟩

theorem renewRound_missed (s : RenewLoop) (draw : Jitter) :
    ∃ t, renewRound handle config s ⟨draw, false⟩ = some t ∧
      t.failures = saturatingAdd u32Max s.failures 1 ∧
      t.slept = s.slept + sleepNanos handle config s.failures draw ∧ t.gaps = s.gaps :=
  ⟨_, rfl, rfl, rfl, rfl⟩

theorem allMissed_run {misses : Nat} (countable : misses ≤ u32Max) :
    ∃ s, run (renewRound handle config) .start (allMissed misses) = some s ∧
      s.failures = misses ∧ s.gaps = [] ∧
      s.slept + sleepNanos handle config s.failures lastDraw =
        longestSilence handle config misses := by
  induction misses with
  | zero => exact ⟨.start, rfl, rfl, rfl, Nat.zero_add _⟩
  | succ n ih =>
    obtain ⟨s, ends, failures, gaps, slept⟩ := ih (by omega)
    have counted : saturatingAdd u32Max s.failures 1 = n + 1 := by
      rw [failures]
      exact saturatingAdd_of_le countable
    obtain ⟨t, missed, failed, rested, unchanged⟩ := renewRound_missed handle config s lastDraw
    refine ⟨t, ?_, failed.trans counted, unchanged.trans gaps, ?_⟩
    · rw [allMissed, List.replicate_succ']
      refine run_append ends ?_
      rw [run, missed]
      rfl
    · rw [rested, slept, failed, counted]
      rfl

def recoveredAfter (misses : Nat) : List Renewal := allMissed misses ++ [⟨lastDraw, true⟩]

theorem recoveredAfter_run {misses : Nat} (countable : misses ≤ u32Max) :
    ∃ s, run (renewRound handle config) .start (recoveredAfter misses) = some s ∧
      s.gaps = [longestSilence handle config misses] := by
  obtain ⟨s, ends, -, gaps, slept⟩ := allMissed_run handle config countable
  refine ⟨_, run_append ends rfl, ?_⟩
  simp only [slept, gaps]

theorem recoveredAfter_within (misses n : Nat) (s : RenewLoop) (room : s.failures + n ≤ misses) :
    Along (renewRound handle config) (RecoversWithin misses) s (recoveredAfter n) := by
  induction n generalizing s with
  | zero => exact ⟨fun _ => rfl, fun _ _ => trivial⟩
  | succ n ih =>
    refine ⟨fun full => absurd full (by omega), fun t taken => ih t ?_⟩
    obtain ⟨u, missed, failed, -⟩ := renewRound_missed handle config s lastDraw
    cases Option.some.inj (missed.symm.trans taken)
    rw [failed, saturatingAdd]
    omega

variable (lease : DiscoveryInstanceConfig)

/- For every configuration: the lease outlives as many missed renewals in a row exactly if it
is longer than the renew interval and the longest backoff after each of them. -/
theorem lease_outlives_misses_iff (misses : Nat) (countable : misses < u32Max) :
    (∀ rounds s, run (renewRound handle config) .start rounds = some s →
      Along (renewRound handle config) (RecoversWithin misses) .start rounds →
      LeaseKept lease s) ↔
    longestSilence handle config misses < (Duration.fromSecs lease.leaseTtlSeconds).nanos := by
  constructor
  · intro kept
    obtain ⟨s, ends, gaps⟩ := recoveredAfter_run handle config (Nat.le_of_lt countable)
    have within := recoveredAfter_within handle config misses misses .start
      (by simp [RenewLoop.start])
    exact kept _ s ends within _ (by rw [gaps]; exact List.mem_cons_self)
  · intro early rounds s ends recovers gap member
    have initial : PacedWithin handle config misses .start :=
      ⟨silence_start handle config, Nat.zero_le _, nofun⟩
    have paced := run_invariant (renewRound handle config) (RecoversWithin misses)
      (PacedWithin handle config misses) (pacedWithin_round countable) rounds .start s initial
      recovers ends
    exact Nat.lt_of_le_of_lt (paced.short gap member) early

/-- The last thing the loop said is the alarm, and no renewal has succeeded since. -/
def AlarmRaised (s : RenewLoop) : Prop :=
  ∃ failures, s.logged.head? = some (.beyondThreshold failures)

/-- At every moment of the sleep that follows, up to the next renewal, a lease that has run out
has been preceded by the alarm. -/
def NeverSilent (s : RenewLoop) : Prop :=
  ∀ draw, ∀ wait ≤ sleepNanos handle config s.failures draw,
    (Duration.fromSecs lease.leaseTtlSeconds).nanos ≤ s.slept + wait → AlarmRaised s

theorem silence_run {rounds : List Renewal} {s : RenewLoop}
    (ends : run (renewRound handle config) .start rounds = some s) : Silence handle config s :=
  run_preserves (renewRound handle config) (Silence handle config) silence_round rounds .start s
    (silence_start handle config) ends

variable {handle config} in
theorem Silence.alarm_iff {s : RenewLoop} (held : Silence handle config s) :
    AlarmRaised s ↔ 0 < s.failures ∧ config.maxConsecutiveFailures.toNat ≤ s.failures := by
  by_cases failing : 0 < s.failures
  · rw [AlarmRaised, held.said failing]
    by_cases many : config.maxConsecutiveFailures.toNat ≤ s.failures
    · simp [failing, many]
    · simp [many]
  · refine iff_of_false ?_ fun both => failing both.1
    rintro ⟨failures, said⟩
    exact held.calm (Nat.eq_zero_of_not_pos failing) failures said

/- Over all runs, at every moment: the lease never runs out before the alarm exactly if it is
longer than the renew interval and the longest backoffs up to the failure that raises it. -/
theorem no_silent_expiry_iff :
    (∀ rounds s, run (renewRound handle config) .start rounds = some s →
      NeverSilent handle config lease s) ↔
    longestSilence handle config (config.maxConsecutiveFailures.toNat - 1) <
      (Duration.fromSecs lease.leaseTtlSeconds).nanos := by
  have fits : config.maxConsecutiveFailures.toNat ≤ u32Max :=
    Nat.le_of_lt_succ config.maxConsecutiveFailures.toNat_lt
  constructor
  · intro never
    by_contra short
    -- One failure fewer than it takes, and the last moment of the sleep after them.
    obtain ⟨s, ends, failures, -, slept⟩ := @allMissed_run handle config
      (config.maxConsecutiveFailures.toNat - 1) (by omega)
    have raised := never _ s ends lastDraw _ (Nat.le_refl _) (by omega)
    rw [(silence_run handle config ends).alarm_iff] at raised
    omega
  · intro early rounds s ends draw wait within expired
    have held := silence_run handle config ends
    have slept := held.sleep draw
    have fewer := @longestSilence_mono handle config s.failures
      (config.maxConsecutiveFailures.toNat - 1)
    rw [held.alarm_iff]
    by_cases counting : s.failures < u32Max
    · have silence := slept counting
      by_contra unraised
      have before : s.failures ≤ config.maxConsecutiveFailures.toNat - 1 := by omega
      have sooner := fewer before
      omega
    · unfold u32Max at counting fits
      omega

end

attribute [local instance] languageUtils

/- The defaults with a lease of thirty seconds, renewed every ten: three misses take at most
24 of them, a fourth may take ten more, and the alarm comes after 16 at the latest. -/
def everyTen : DiscoveryInstanceHandle := ⟨"lease-a", .fromSecs 10⟩

theorem default_lease_outlives_three_misses :
    (leaseOf 30).handle "lease-a" = .ok everyTen ∧
    (∀ rounds s, run (renewRound everyTen .default) .start rounds = some s →
      Along (renewRound everyTen .default) (RecoversWithin 3) .start rounds →
      LeaseKept (leaseOf 30) s) ∧
    ¬ ∀ rounds s, run (renewRound everyTen .default) .start rounds = some s →
      Along (renewRound everyTen .default) (RecoversWithin 4) .start rounds →
      LeaseKept (leaseOf 30) s := by
  refine ⟨rfl, ?_, ?_⟩
  · exact (lease_outlives_misses_iff everyTen .default (leaseOf 30) 3 (by decide)).mpr (by decide)
  · rw [lease_outlives_misses_iff everyTen .default (leaseOf 30) 4 (by decide)]
    decide

theorem default_alarm_before_expiry :
    (∀ rounds s, run (renewRound everyTen .default) .start rounds = some s →
      NeverSilent everyTen .default (leaseOf 30) s) ∧
    (leaseOf 4).handle "lease-a" = .ok everySecond ∧
    ¬ ∀ rounds s, run (renewRound everySecond .default) .start rounds = some s →
      NeverSilent everySecond .default (leaseOf 4) s := by
  refine ⟨?_, rfl, ?_⟩
  · exact (no_silent_expiry_iff everyTen .default (leaseOf 30)).mpr (by decide)
  · rw [no_silent_expiry_iff everySecond .default (leaseOf 4)]
    decide

end SdkworkRpc.Discovery
