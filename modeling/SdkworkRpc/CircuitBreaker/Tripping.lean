import SdkworkRpc.CircuitBreaker.Progress

/-! What trips the breaker. A ghost counts the failures that have been added since the
counter was last set to zero, in the order in which the additions and the stores take place. -/
namespace SdkworkRpc.CircuitBreaker

open Run Machine

structure Streak where
  current : Nat
  peak : Nat
  deriving DecidableEq, Repr

def Streak.grow (g : Streak) : Streak := ⟨g.current + 1, max g.peak (g.current + 1)⟩

def Streak.cut (g : Streak) : Streak := ⟨0, g.peak⟩

/-- What the step at a program point does to the counter of failures. -/
def Point.counts : Point → Streak → Streak
  | .failureAdd => .grow
  | .refreshFailures _ => .cut
  | .successFailures => .cut
  | _ => id

variable {ι : Type*}

def countStreak (s : World ι) : Action ι → Streak → Streak
  | .thread i .advance => (s.thread i).counts
  | _ => id

/-- The failures in a row that the first opening takes: a threshold of 0 is met by one. -/
def tripsAt (cfg : CircuitBreakerConfig) : Nat := max 1 cfg.failureThreshold

/- Where a caller can be while the breaker has never opened. -/
def Point.untripped : Point → Bool
  | .idle none => true
  | .idle (some answer) => answer = .recorded ∨ answer = .allowed true ∨ answer = .state .closed
  | .refreshLoad _ | .stateLoad | .allowLoad => true
  | .successSwap | .successFailures | .successProbes | .successOpenedAt => true
  | .failureLoad | .failureAdd => true
  | _ => false

def Tripped (s : World ι) : Prop :=
  ∃ i, s.thread i = .openSwap ∨ ∃ time, .swapped i .opened time ∈ s.history

structure Closed (cfg : CircuitBreakerConfig) (b : Breaker) (g : Streak) : Prop where
  closed : b.state = .closed
  counted : b.consecutiveFailures = g.current
  latest : g.current ≤ g.peak
  below : g.peak < tripsAt cfg

structure NeverTripped (cfg : CircuitBreakerConfig) (s : World ι) (g : Streak) : Prop where
  fields : Closed cfg s.shared g
  points : ∀ i, (s.thread i).untripped = true
  history : ∀ i time, Event.swapped i .opened time ∉ s.history

theorem tripsAt_fits (cfg : CircuitBreakerConfig) : tripsAt cfg ≤ u32Max :=
  max_le (by decide) cfg.thresholdFits

theorem failureAdd_trips (cfg : CircuitBreakerConfig) {failures : Nat}
    (below : failures < tripsAt cfg) :
    cfg.failureThreshold ≤ saturatingAdd u32Max failures 1 ↔ tripsAt cfg ≤ failures + 1 := by
  have fits := tripsAt_fits cfg
  rw [saturatingAdd_of_le (by omega)]
  unfold tripsAt at *
  omega

section

variable {cfg : CircuitBreakerConfig} {i : ι} {b c : Breaker} {p q : Point} {e : Event ι}
  {g : Streak}

theorem Closed.keep (held : Closed cfg b g) (state : c.state = .closed)
    (counter : c.consecutiveFailures = b.consecutiveFailures) : Closed cfg c g :=
  ⟨state, counter.trans held.counted, held.latest, held.below⟩

theorem Closed.cut (held : Closed cfg b g) (state : c.state = .closed)
    (counter : c.consecutiveFailures = 0) : Closed cfg c g.cut :=
  ⟨state, counter, Nat.zero_le _, held.below⟩

theorem Closed.add (held : Closed cfg b g) :
    (tripsAt cfg ≤ g.grow.peak ∧ cfg.failureThreshold ≤
      saturatingAdd u32Max b.consecutiveFailures 1) ∨
    (¬ cfg.failureThreshold ≤ saturatingAdd u32Max b.consecutiveFailures 1 ∧
      Closed cfg { b with consecutiveFailures := (b.consecutiveFailures + 1) % 2 ^ 32 }
        g.grow) := by
  obtain ⟨closed, counted, latest, below⟩ := held
  have fits := tripsAt_fits cfg
  have trips := @failureAdd_trips cfg b.consecutiveFailures (by omega)
  by_cases reached : tripsAt cfg ≤ b.consecutiveFailures + 1
  · refine .inl ⟨?_, trips.mpr reached⟩
    rw [counted] at reached
    exact le_trans reached (le_max_right _ _)
  · refine .inr ⟨fun met => reached (trips.mp met), closed, ?_, le_max_right _ _, ?_⟩
    · -- Below the threshold the addition does not wrap.
      simp only [Streak.grow, ← counted]
      unfold u32Max at fits
      omega
    · rw [counted] at reached
      exact max_lt below (by omega)

/-- One step of a breaker that has not been opened. It reaches the threshold and goes on to
`open`, or it leaves the breaker closed and the caller where it may be. -/
theorem advance_untripped (held : Closed cfg b g) (here : p.untripped = true)
    (taken : advance cfg i b p = some (c, q, e)) :
    (tripsAt cfg ≤ (p.counts g).peak ∧ q = .openSwap) ∨
    (Closed cfg c (p.counts g) ∧ q.untripped = true ∧ ∀ j time, e ≠ .swapped j .opened time) := by
  have closed := held.closed
  cases p <;> simp only [advance] at taken
  case idle => cases taken
  case failureAdd =>
    cases Option.some.inj taken
    rcases held.add with ⟨reached, met⟩ | ⟨unmet, kept⟩
    · exact .inl ⟨reached, if_pos met⟩
    · rw [if_neg unmet]
      exact .inr ⟨kept, rfl, by simp⟩
  case refreshLoad op =>
    cases Option.some.inj taken
    rw [if_neg (by rw [closed]; decide)]
    refine .inr ⟨held, ?_, by simp⟩
    cases op <;> rfl
  case failureLoad =>
    cases Option.some.inj taken
    rw [if_neg (by rw [closed]; decide)]
    exact .inr ⟨held, rfl, by simp⟩
  case stateLoad =>
    cases Option.some.inj taken
    rw [closed]
    exact .inr ⟨held, rfl, by simp⟩
  case allowLoad =>
    simp only [closed] at taken
    cases Option.some.inj taken
    exact .inr ⟨held, rfl, by simp⟩
  case successSwap =>
    cases Option.some.inj taken
    exact .inr ⟨held.keep rfl rfl, rfl, by simp⟩
  case successFailures =>
    cases Option.some.inj taken
    exact .inr ⟨held.cut closed rfl, rfl, by simp⟩
  case successProbes =>
    cases Option.some.inj taken
    exact .inr ⟨held.keep closed rfl, rfl, by simp⟩
  case successOpenedAt =>
    cases Option.some.inj taken
    exact .inr ⟨held.keep closed rfl, rfl, by simp⟩
  all_goals cases here

theorem history_silent {h : List (Event ι)} (past : ∀ j time, .swapped j .opened time ∉ h)
    (silent : ∀ j time, e ≠ .swapped j .opened time) :
    ∀ j time, .swapped j .opened time ∉ e :: h := by
  intro j time member
  exact past j time (List.mem_of_ne_of_mem (Ne.symm (silent j time)) member)

theorem not_tripped {s : World ι} {g : Streak} (never : NeverTripped cfg s g) : ¬ Tripped s := by
  rintro ⟨i, about | ⟨time, past⟩⟩
  · have here := never.points i
    rw [about] at here
    cases here
  · exact never.history i time past

end

variable [DecidableEq ι] {cfg : CircuitBreakerConfig}

/-- Once tripped, it stays so: who was about to open the breaker has opened it after the
next step of that caller. -/
theorem tripped_kept {s t : World ι} {act : Action ι} (tripped : Tripped s)
    (taken : step cfg s act = some t) : Tripped t := by
  obtain ⟨j, trips⟩ := tripped
  cases act with
  | environment nanos =>
    obtain ⟨c, e, moved, rfl⟩ := Interleaving.next_environment taken
    exact ⟨j, trips.imp_right fun ⟨time, past⟩ => ⟨time, List.mem_cons_of_mem _ past⟩⟩
  | thread i a =>
    obtain ⟨c, q, e, moved, rfl⟩ := Interleaving.next_thread taken
    rcases trips with about | ⟨time, past⟩
    · by_cases own : j = i
      · subst own
        rw [about] at moved
        cases a with
        | call op => cases moved
        | advance =>
          cases Option.some.inj moved
          exact ⟨j, .inr ⟨_, List.mem_cons_self⟩⟩
      · exact ⟨j, .inl (by simp only [Function.update_of_ne own, about])⟩
    · exact ⟨j, .inr ⟨time, List.mem_cons_of_mem _ past⟩⟩

def TripsExactly (cfg : CircuitBreakerConfig) (x : World ι × Streak) : Prop :=
  NeverTripped cfg x.1 x.2 ∨ (tripsAt cfg ≤ x.2.peak ∧ Tripped x.1)

theorem counts_peak (p : Point) (g : Streak) : g.peak ≤ (p.counts g).peak := by
  cases p <;> simp [Point.counts, Streak.grow, Streak.cut]

theorem neverTripped_step {s t : World ι} {g : Streak} {act : Action ι}
    (held : NeverTripped cfg s g) (taken : step cfg s act = some t) :
    TripsExactly cfg (t, countStreak s act g) := by
  cases act with
  | environment nanos =>
    obtain ⟨c, e, moved, rfl⟩ := Interleaving.next_environment taken
    cases Option.some.inj moved
    exact .inl ⟨held.fields.keep held.fields.closed rfl, held.points,
      history_silent held.history nofun⟩
  | thread i a =>
    obtain ⟨c, q, e, moved, rfl⟩ := Interleaving.next_thread taken
    have elsewhere : ∀ {r : Point}, r.untripped = true →
        ∀ j, (Function.update s.thread i r j).untripped = true := by
      intro r here j
      by_cases own : j = i
      · subst own
        rw [Function.update_self]
        exact here
      · rw [Function.update_of_ne own]
        exact held.points j
    cases a with
    | call op =>
      obtain ⟨_, rfl, rfl, rfl⟩ := call_enters cfg moved
      exact .inl ⟨held.fields, elsewhere rfl, history_silent held.history nofun⟩
    | advance =>
      rcases advance_untripped held.fields (held.points i) moved with
        ⟨reached, rfl⟩ | ⟨fields, here, silent⟩
      · exact .inr ⟨reached, i, .inl (Function.update_self ..)⟩
      · exact .inl ⟨fields, elsewhere here, history_silent held.history silent⟩

theorem tripsExactly_preserved (x : World ι × Streak) (act : Action ι) (y : World ι × Streak)
    (held : TripsExactly cfg x) (taken : withGhost (step cfg) countStreak x act = some y) :
    TripsExactly cfg y := by
  obtain ⟨s, g⟩ := x
  obtain ⟨t, k⟩ := y
  obtain ⟨moved, rfl⟩ := withGhost_taken taken
  rcases held with never | ⟨reached, tripped⟩
  · exact neverTripped_step never moved
  · refine .inr ⟨?_, tripped_kept tripped moved⟩
    cases act with
    | environment nanos => exact reached
    | thread i a =>
      cases a with
      | call op => exact reached
      | advance => exact le_trans reached (counts_peak _ g)

/- In every interleaving of any number of callers: a caller opens the breaker for the first
time exactly when as many failures as the threshold, and at least one, have been added with
no store of 0 between them. Until then it is closed and has turned nobody away. -/
theorem breaker_trips_iff (cfg : CircuitBreakerConfig) (as : List (Action ι)) (s : World ι)
    (ends : run (step cfg) (start ι) as = some s) :
    ∃ g, run (withGhost (step cfg) countStreak) (start ι, ⟨0, 0⟩) as = some (s, g) ∧
      (Tripped s ↔ max 1 cfg.failureThreshold ≤ g.peak) ∧
      (g.peak < max 1 cfg.failureThreshold → s.shared.state = .closed ∧
        s.shared.consecutiveFailures = g.current ∧
        ∀ i, s.thread i ≠ .idle (some (.allowed false))) := by
  obtain ⟨g, counted⟩ := run_withGhost countStreak as ends ⟨0, 0⟩
  have initial : TripsExactly cfg (start ι, ⟨0, 0⟩) := by
    refine .inl ⟨⟨rfl, rfl, Nat.le_refl _, ?_⟩, fun _ => rfl, nofun⟩
    exact lt_of_lt_of_le Nat.zero_lt_one (le_max_left _ _)
  have exactly := run_preserves _ (TripsExactly cfg) tripsExactly_preserved as _ _ initial counted
  refine ⟨g, counted, ?_⟩
  rcases exactly with never | ⟨reached, tripped⟩
  · have below : ¬ max 1 cfg.failureThreshold ≤ g.peak := not_le_of_gt never.fields.below
    refine ⟨iff_of_false (not_tripped never) below, fun _ => ⟨never.fields.closed,
      never.fields.counted, ?_⟩⟩
    intro i refused
    have here := never.points i
    rw [refused] at here
    cases here
  · exact ⟨iff_of_true tripped reached, fun below => absurd reached (not_le_of_gt below)⟩

/-- Four failures, a success, and five failures more by both callers. -/
def interrupted : List (Action (Fin 2)) :=
  (List.replicate 4 (.thread first (.call .recordFailure) :: advances first 3)).flatten ++
    .thread second (.call .recordSuccess) :: advances second 5 ++
    (List.replicate 4 (.thread first (.call .recordFailure) :: advances first 3)).flatten ++
    .thread second (.call .recordFailure) :: advances second 7

theorem breaker_trips_iff_interrupted :
    (∃ s g, run (step defaultConfig) (start (Fin 2)) (interrupted.take 38) = some s ∧
      run (withGhost (step defaultConfig) countStreak) (start (Fin 2), ⟨0, 0⟩)
        (interrupted.take 38) = some (s, g) ∧
      g = ⟨4, 4⟩ ∧ ¬ Tripped s ∧ s.shared.state = .closed) ∧
    ∃ s g, run (step defaultConfig) (start (Fin 2)) interrupted = some s ∧
      run (withGhost (step defaultConfig) countStreak) (start (Fin 2), ⟨0, 0⟩) interrupted =
        some (s, g) ∧
      g = ⟨5, 5⟩ ∧ Tripped s := by
  constructor
  · obtain ⟨g, counted, trips, calm⟩ := breaker_trips_iff defaultConfig (interrupted.take 38) _ rfl
    have four : g = ⟨4, 4⟩ := (Prod.ext_iff.mp (Option.some.inj counted)).2.symm
    refine ⟨_, g, rfl, counted, four, ?_, ?_⟩
    · rw [trips, four]
      decide
    · exact (calm (by rw [four]; decide)).1
  · obtain ⟨g, counted, trips, -⟩ := breaker_trips_iff defaultConfig interrupted _ rfl
    have five : g = ⟨5, 5⟩ := (Prod.ext_iff.mp (Option.some.inj counted)).2.symm
    exact ⟨_, g, rfl, counted, five, trips.mpr (by rw [five]; decide)⟩

end SdkworkRpc.CircuitBreaker
