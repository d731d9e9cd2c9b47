import SdkworkRpc.CircuitBreaker.OpenedAt

/-! The half-open gate. An episode runs from a successful compare_exchange to
HalfOpen up to the next swap of the state. -/
namespace SdkworkRpc.CircuitBreaker

open Run Interleaving Machine

variable {ι : Type*}

/-- The probes acquired so far in the current episode; outside one, none. -/
def episode : List (Event ι) → Option Nat
  | [] => none
  | .exchanged _ _ :: _ => some 0
  | .swapped _ _ _ :: _ => none
  | .acquired _ :: h => (episode h).map (· + 1)
  | _ :: h => episode h

/-- No store of 0 to half_open_probes once the episode has a probe. -/
def ResetsBeforeProbes (s : World ι) (i : ι) : Prop :=
  (s.thread i).resetting = true → ∀ n ∈ episode s.history, n = 0

instance (s : World ι) (i : ι) : Decidable (ResetsBeforeProbes s i) :=
  inferInstanceAs (Decidable (_ → ∀ n ∈ episode s.history, n = 0))

/- The counter never runs behind the episode, and a caller about to add to it has
seen it below the limit. -/
def probeOutline (limit : Nat) : Outline ι Breaker Point (Event ι) where
  common b h := ∀ n, episode h = some n → n ≤ b.halfOpenProbes ∧ n ≤ limit
  own _ _ _ p := ∀ observed, p = .probeExchange observed → observed < limit

theorem afterRefresh_ne_probe (op : Operation) (observed : Nat) :
    afterRefresh op ≠ .probeExchange observed := by cases op <;> nofun

theorem probe_below_limit {cfg : CircuitBreakerConfig} {i : ι} {b c : Breaker} {p : Point}
    {observed : Nat} {e : Event ι} {a : Move}
    (taken : callerStep cfg i b p a = some (c, .probeExchange observed, e)) :
    observed < cfg.halfOpenMaxProbes := by
  cases a with
  | call op => obtain ⟨_, _, impossible, _⟩ := call_enters cfg taken; cases impossible
  | advance =>
    cases p <;> simp only [callerStep, advance] at taken
    case idle => cases taken
    case probeLoad =>
      split at taken
      · cases taken
      · cases taken
        omega
    case refreshExchange op => split at taken <;> simp_all [afterRefresh_ne_probe]
    case allowLoad => split at taken <;> cases taken
    case probeExchange old => split at taken <;> cases taken
    all_goals simp_all [afterRefresh_ne_probe]
    all_goals split at taken <;> simp_all [afterRefresh_ne_probe]

theorem episode_within {cfg : CircuitBreakerConfig} {i : ι} {b c : Breaker} {p q : Point}
    {h : List (Event ι)} {e : Event ι}
    (within : ∀ n, episode h = some n → n ≤ b.halfOpenProbes ∧ n ≤ cfg.halfOpenMaxProbes)
    (seen : ∀ observed, p = .probeExchange observed → observed < cfg.halfOpenMaxProbes)
    (reset : p.resetting = true → ∀ n ∈ episode h, n = 0)
    (taken : advance cfg i b p = some (c, q, e)) :
    ∀ n, episode (e :: h) = some n → n ≤ c.halfOpenProbes ∧ n ≤ cfg.halfOpenMaxProbes := by
  obtain ⟨effect, _⟩ := advance_effect taken
  have source := advance_source taken
  intro n hn
  cases e with
  | ticked => exact effect.elim
  | swapped k value time => cases hn
  | exchanged k time =>
    cases Option.some.inj hn
    exact ⟨Nat.zero_le _, Nat.zero_le _⟩
  | acquired k =>
    obtain ⟨rfl, rfl⟩ := effect
    obtain ⟨m, hm, rfl⟩ := Option.map_eq_some_iff.mp hn
    -- The counter cannot saturate: it was seen below a limit that fits the type.
    have below := seen _ source
    have room : b.halfOpenProbes + 1 ≤ u32Max := Nat.le_trans below cfg.probesFit
    have counted := (within m hm).1
    simp only [saturatingAdd_of_le room]
    omega
  | resetProbes k =>
    have none_yet := reset source n hn
    omega
  | stampedOpenedAt k =>
    obtain ⟨_, nanos, rfl⟩ := effect
    exact within n hn
  | _ => simp_all [Effect, episode]

variable [DecidableEq ι]

theorem probes_preserved (cfg : CircuitBreakerConfig) (s : World ι) (act : Action ι)
    (t : World ι) (held : (probeOutline cfg.halfOpenMaxProbes).Holds s)
    (ok : AtAdvance ResetsBeforeProbes s act) (taken : step cfg s act = some t) :
    (probeOutline cfg.halfOpenMaxProbes).Holds t := by
  refine outline_preserved _ (AtAdvance ResetsBeforeProbes) ?_ ?_ ?_ s act t held ok taken
  · intro s i a c q e held ok hs
    refine ⟨?_, fun observed hq => probe_below_limit (hq ▸ hs)⟩
    cases a with
    | call op =>
      obtain ⟨_, rfl, _, rfl⟩ := call_enters cfg hs
      exact held.1
    | advance => exact episode_within held.1 (held.2 i) ok hs
  · intro s i a c q e j held _ _ _
    exact held.2 j
  · intro s nanos c e held _ hs
    cases Option.some.inj hs
    exact held

/-- In every run in which no store of 0 to half_open_probes falls after a probe of
the same episode, an episode admits at most half_open_max_probes probes. -/
theorem half_open_probes_bounded (cfg : CircuitBreakerConfig) (as : List (Action ι))
    (s : World ι) (ok : Along (step cfg) (AtAdvance ResetsBeforeProbes) (start ι) as)
    (ends : run (step cfg) (start ι) as = some s) (n : Nat)
    (probes : episode s.history = some n) : n ≤ cfg.halfOpenMaxProbes := by
  have initial : (probeOutline cfg.halfOpenMaxProbes).Holds (start ι) :=
    ⟨nofun, fun _ => nofun⟩
  have held := run_invariant (step cfg) _ _ (probes_preserved cfg) as _ s initial ok ends
  exact (held.1 n probes).2

def oneProbe : List (Action (Fin 2)) :=
  openAtFive ++ .environment 10 :: .thread second (.call .allowRequest) :: advances second 9 ++
    .thread first (.call .allowRequest) :: advances first 3

theorem half_open_probes_bounded_by_one :
    ∃ s, run (step quickConfig) (start (Fin 2)) oneProbe = some s ∧ Quiescent s ∧
      s.thread 0 = .idle (some (.allowed false)) ∧ episode s.history = some 1 ∧ 1 ≤ 1 :=
  ⟨_, rfl, by decide, rfl, rfl,
    half_open_probes_bounded quickConfig oneProbe _ (by decide) rfl 1 rfl⟩

/- Caller 1 takes its probe before caller 0, which made the breaker HalfOpen, has
reset the counter, and so takes a second one. -/
def lateReset : List (Action (Fin 2)) :=
  openAtFive ++ .environment 10 :: .thread first (.call .state) :: advances first 4 ++
    .thread second (.call .allowRequest) :: advances second 4 ++ advances first 3 ++
    .thread second (.call .allowRequest) :: advances second 4

theorem half_open_probes_exceeded :
    ∃ s, run (step quickConfig) (start (Fin 2)) lateReset = some s ∧
      episode s.history = some 2 ∧ quickConfig.halfOpenMaxProbes = 1 :=
  ⟨_, rfl, rfl, rfl⟩

end SdkworkRpc.CircuitBreaker
