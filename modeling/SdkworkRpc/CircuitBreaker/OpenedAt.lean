import SdkworkRpc.CircuitBreaker.Machine

/-! The opening time. `open` publishes the state before the time it opened, and
`record_success` publishes Closed before it erases that time, so the two fields
disagree in between; these are the results about what survives. -/
namespace SdkworkRpc.CircuitBreaker

open Run

variable {ι : Type*}

def Point.stamping : Point → Bool
  | .openClock => true
  | .openStore _ => true
  | _ => false

def PositiveReading (s : World ι) (i : ι) : Prop := s.thread i ≠ .openStore 0

/-- `record_success` erases the opening time of an Open breaker only while some
`open` has still to store its own. -/
def ErasesNoOpening (s : World ι) (i : ι) : Prop :=
  s.thread i = .successOpenedAt → s.shared.state = .opened → ∃ j, (s.thread j).stamping = true

instance (s : World ι) (i : ι) : Decidable (PositiveReading s i) :=
  inferInstanceAs (Decidable (s.thread i ≠ _))

instance [Fintype ι] (s : World ι) (i : ι) : Decidable (ErasesNoOpening s i) :=
  inferInstanceAs (Decidable (_ → _ → _))

def Stamped (s : World ι) : Prop :=
  s.shared.state = .opened → s.shared.openedAtNanos ≠ 0 ∨ ∃ j, (s.thread j).stamping = true

theorem advance_stamping {cfg : CircuitBreakerConfig} {i : ι} {b c : Breaker} {p q : Point}
    {e : Event ι} (taken : advance cfg i b p = some (c, q, e)) :
    q.stamping = true ∨ (∃ nanos, p = .openStore nanos ∧ c.openedAtNanos = nanos) ∨
    (p = .successOpenedAt ∧ c.state = b.state) ∨
    (p.stamping = false ∧ c.openedAtNanos = b.openedAtNanos ∧
      (c.state = .opened → b.state = .opened)) := by
  cases p <;> simp only [advance] at taken
  case idle => cases taken
  case refreshExchange op =>
    split at taken <;> cases Option.some.inj taken <;> simp [Point.stamping]
  case allowLoad =>
    split at taken <;> cases Option.some.inj taken <;> simp [Point.stamping]
  case probeExchange observed =>
    split at taken <;> cases Option.some.inj taken <;> simp [Point.stamping]
  all_goals cases Option.some.inj taken; simp [Point.stamping]

theorem idle_not_stamping {p : Point} (idle : p.isIdle = true) : p.stamping = false := by
  cases p with
  | idle answer => rfl
  | _ => cases idle

variable [DecidableEq ι]

theorem stamping_elsewhere {thread : ι → Point} {i : ι} (q : Point)
    (other : (thread i).stamping = false) (stamping : ∃ j, (thread j).stamping = true) :
    ∃ j, (Function.update thread i q j).stamping = true := by
  obtain ⟨j, hj⟩ := stamping
  have distinct : j ≠ i := by
    rintro rfl
    rw [other] at hj
    cases hj
  refine ⟨j, ?_⟩
  rw [Function.update_of_ne distinct]
  exact hj

theorem stamped_preserved (cfg : CircuitBreakerConfig) (s : World ι) (act : Action ι)
    (t : World ι) (stamped : Stamped s)
    (ok : AtAdvance PositiveReading s act ∧ AtAdvance ErasesNoOpening s act)
    (taken : step cfg s act = some t) : Stamped t := by
  cases act with
  | environment nanos =>
    obtain ⟨g, e, hs, rfl⟩ := Interleaving.next_environment taken
    cases Option.some.inj hs
    exact stamped
  | thread i a =>
    obtain ⟨c, q, e, hs, rfl⟩ := Interleaving.next_thread taken
    cases a with
    | call op =>
      obtain ⟨idle, rfl, _, _⟩ := call_enters cfg hs
      intro isOpen
      exact (stamped isOpen).imp_right (stamping_elsewhere _ (idle_not_stamping idle))
    | advance =>
      intro isOpen
      -- It is inside `open`, stores its time, erases the time, or leaves the time alone.
      rcases advance_stamping hs with own | ⟨nanos, hp, hn⟩ | ⟨hp, hstate⟩ | ⟨hp, hn, hstate⟩
      · exact .inr ⟨i, by simpa using own⟩
      · exact .inl fun zero => ok.1 (hp.trans (congrArg _ (hn.symm.trans zero)))
      · have erasing : (s.thread i).stamping = false := by rw [hp]; rfl
        exact .inr (stamping_elsewhere q erasing (ok.2 hp (hstate ▸ isOpen)))
      · rcases stamped (hstate isOpen) with kept | stamping
        · exact .inl (hn ▸ kept)
        · exact .inr (stamping_elsewhere q hp stamping)

/-- With an opening time stored, `refresh_state` leaves Open as soon as it runs
alone after the recovery timeout. -/
theorem refresh_leaves_open (cfg : CircuitBreakerConfig) (s : World ι) (i : ι) (wait : Nat)
    (idle : (s.thread i).isIdle = true) (isOpen : s.shared.state = .opened)
    (stored : s.shared.openedAtNanos ≠ 0)
    (elapsed : s.shared.openedAtNanos + cfg.recoveryTimeout.nanos ≤ s.shared.clock + wait) :
    ∃ t, run (step cfg) s (.environment wait :: .thread i (.call .state) ::
      List.replicate 4 (.thread i .advance)) = some t ∧ t.shared.state = .halfOpen := by
  have late : ¬ s.shared.clock + wait - s.shared.openedAtNanos < cfg.recoveryTimeout.nanos := by
    omega
  cases hp : s.thread i with
  | idle answer =>
    simp [run, step, Interleaving.System.next, system, tick, callerStep, advance, hp, isOpen,
      stored, late, List.replicate]
  | _ => simp [hp, Point.isIdle] at idle

/-- In every run in which `record_success` never erases the time of an Open breaker
that no `open` is about to restore, a breaker at rest in Open keeps the time it
opened, and leaves Open once the recovery timeout has passed. -/
theorem opened_breaker_recovers (cfg : CircuitBreakerConfig) (as : List (Action ι)) (s : World ι)
    (positive : Along (step cfg) (AtAdvance PositiveReading) (start ι) as)
    (kept : Along (step cfg) (AtAdvance ErasesNoOpening) (start ι) as)
    (ends : run (step cfg) (start ι) as = some s) (rest : Quiescent s)
    (isOpen : s.shared.state = .opened) :
    s.shared.openedAtNanos ≠ 0 ∧
    ∀ i wait, s.shared.openedAtNanos + cfg.recoveryTimeout.nanos ≤ s.shared.clock + wait →
      ∃ t, run (step cfg) s (.environment wait :: .thread i (.call .state) ::
        List.replicate 4 (.thread i .advance)) = some t ∧ t.shared.state = .halfOpen := by
  have initial : Stamped (start ι) := by intro h; cases h
  have stamped := run_invariant (step cfg) _ Stamped (stamped_preserved cfg) as _ s initial
    (along_and positive kept) ends isOpen
  have stored : s.shared.openedAtNanos ≠ 0 := by
    refine stamped.resolve_right ?_
    rintro ⟨j, hj⟩
    rw [idle_not_stamping (rest j)] at hj
    cases hj
  exact ⟨stored, fun i wait => refresh_leaves_open cfg s i wait (rest i) isOpen stored⟩

/- Two callers, one failure to open, ten nanoseconds to recover. -/
def quickConfig : CircuitBreakerConfig :=
  ⟨1, ⟨10, by decide⟩, 1, defaultConfig.probesFit, defaultConfig.probesFit⟩

def first : Fin 2 := 0
def second : Fin 2 := 1

def advances (i : Fin 2) (n : Nat) : List (Action (Fin 2)) := List.replicate n (.thread i .advance)

def openAtFive : List (Action (Fin 2)) :=
  .environment 5 :: .thread first (.call .recordFailure) :: advances first 7

/-- The same failure with a success inside it: the success erases the time of the breaker that
is open by then, and the failure stores it afterwards. -/
def restoredAtFive : List (Action (Fin 2)) :=
  .environment 5 :: .thread second (.call .recordSuccess) :: advances second 4 ++
    .thread first (.call .recordFailure) :: advances first 4 ++ advances second 1 ++
    advances first 3

theorem opened_breaker_recovers_at_five :
    ∃ s, run (step quickConfig) (start (Fin 2)) restoredAtFive = some s ∧ Quiescent s ∧
      s.shared.state = .opened ∧ s.shared.openedAtNanos ≠ 0 ∧
      ∃ t, run (step quickConfig) s (.environment 10 :: .thread 1 (.call .state) ::
        List.replicate 4 (.thread 1 .advance)) = some t ∧ t.shared.state = .halfOpen := by
  have h := opened_breaker_recovers quickConfig restoredAtFive _ (by decide) (by decide) rfl
    (by decide) rfl
  exact ⟨_, rfl, by decide, rfl, h.1, h.2 1 10 (by decide)⟩

/- Caller 0 has swapped to Closed when caller 1 trips the breaker and stores its
time; caller 0 then erases it. -/
def erasingSchedule : List (Action (Fin 2)) :=
  .environment 5 :: .thread first (.call .recordSuccess) :: advances first 2 ++
    .thread second (.call .recordFailure) :: advances second 7 ++ advances first 3

theorem breaker_locked_open :
    ∃ s, run (step quickConfig) (start (Fin 2)) erasingSchedule = some s ∧
      Along (step quickConfig) (AtAdvance PositiveReading) (start (Fin 2)) erasingSchedule ∧
      Quiescent s ∧ s.shared.state = .opened ∧ s.shared.openedAtNanos = 0 :=
  ⟨_, rfl, by decide, by decide, rfl, rfl⟩

end SdkworkRpc.CircuitBreaker
