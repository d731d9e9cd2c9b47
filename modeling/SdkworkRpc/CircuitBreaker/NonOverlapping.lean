import SdkworkRpc.CircuitBreaker.OpenedAt
import SdkworkRpc.CircuitBreaker.Sequential

/-! Schedules in which no two operations overlap, while time may pass anywhere. An operation
reads the clock in `refresh_state` and, when it opens the breaker, once more in `open`; what it
does is decided by these two readings, and by one of them where no time passes inside it. -/
namespace SdkworkRpc.CircuitBreaker

open Run

def Breaker.seenAt (b : Breaker) (time : Nat) : Breaker := { b with clock := time }

/-- An operation, and the two moments at which it reads the clock. -/
structure Visit (ι : Type*) where
  caller : ι
  op : Operation
  refreshed : Nat
  concluded : Nat

structure Answered (ι : Type*) where
  breaker : Breaker
  answers : ι → Option Answer

/-- An operation in the schedule: when it was entered, and when its last step was taken. -/
structure Span (ι : Type*) where
  caller : ι
  op : Operation
  entered : Nat
  returned : Nat

variable {ι : Type*}

/-- The clock, and the operations so far, the latest first. -/
def note (noted : Nat × List (Span ι)) : Action ι → Nat × List (Span ι)
  | .environment nanos => (noted.1 + nanos, noted.2)
  | .thread i (.call op) => (noted.1, ⟨i, op, noted.1, noted.1⟩ :: noted.2)
  | .thread _ .advance => (noted.1, noted.2.modifyHead fun s => { s with returned := noted.1 })

def spans (clock : Nat) (actions : List (Action ι)) : List (Span ι) :=
  (actions.foldl note (clock, [])).2

/-- The operation of the span, with both readings inside it. -/
structure Span.Holds (s : Span ι) (v : Visit ι) : Prop where
  caller : v.caller = s.caller
  op : v.op = s.op
  entered : s.entered ≤ v.refreshed
  ordered : v.refreshed ≤ v.concluded
  returned : v.concluded ≤ s.returned

/-- A call is made only when no operation is in progress. -/
def Alternates (w : World ι) : Action ι → Prop
  | .thread _ (.call _) => Quiescent w
  | _ => True

instance [Fintype ι] (w : World ι) : (act : Action ι) → Decidable (Alternates w act)
  | .thread _ (.call _) => inferInstanceAs (Decidable (Quiescent w))
  | .thread _ .advance => isTrue trivial
  | .environment _ => isTrue trivial

def latest (clock : Nat) (spans : List (Span ι)) : Nat := (spans.head?.map Span.returned).getD clock

/-- Every operation comes after the end of the one before it. -/
def Sequenced (clock : Nat) : List (Span ι) → Prop
  | [] => True
  | s :: earlier => latest clock earlier ≤ s.entered ∧ Sequenced clock earlier

theorem sequenced_note {clock : Nat} {noted : Nat × List (Span ι)} (act : Action ι)
    (held : Sequenced clock noted.2 ∧ latest clock noted.2 ≤ noted.1) :
    Sequenced clock (note noted act).2 ∧
      latest clock (note noted act).2 ≤ (note noted act).1 := by
  obtain ⟨now, spans⟩ := noted
  obtain ⟨ordered, past⟩ := held
  cases act with
  | environment nanos => exact ⟨ordered, Nat.le_trans past (Nat.le_add_right _ _)⟩
  | thread i move =>
    cases move with
    | call op => exact ⟨⟨past, ordered⟩, Nat.le_refl _⟩
    | advance =>
      cases spans with
      | nil => exact ⟨trivial, past⟩
      | cons s earlier => exact ⟨ordered, Nat.le_refl _⟩

theorem sequenced_run {clock : Nat} {noted : Nat × List (Span ι)} (actions : List (Action ι))
    (held : Sequenced clock noted.2 ∧ latest clock noted.2 ≤ noted.1) :
    Sequenced clock (actions.foldl note noted).2 := by
  induction actions generalizing noted with
  | nil => exact held.1
  | cons act rest ih => exact ih (sequenced_note act held)

/-! ## Where an operation stands -/

variable (cfg : CircuitBreakerConfig)

/-- The recovery timeout is over, so that `refresh_state` goes on to its exchange. -/
def Recovered (b : Breaker) : Prop :=
  b.state = .opened ∧ b.openedAtNanos ≠ 0 ∧ cfg.recoveryTimeout.nanos ≤ b.clock - b.openedAtNanos

def Opening (found entered : Breaker) : Prop :=
  found.state = .halfOpen ∧ entered = found ∨
    found.state ≠ .halfOpen ∧ reachesThreshold cfg found = true ∧ entered = countFailure found

/-- After a `refresh_state` that left `found`, with nobody else inside. -/
def Concluding (op : Operation) (found : Breaker) (time : Nat) (b : Breaker) : Point → Prop
  | .stateLoad => op = .state ∧ b = found.seenAt time
  | .allowLoad => op = .allowRequest ∧ b = found.seenAt time
  | .probeLoad => op = .allowRequest ∧ found.state = .halfOpen ∧ b = found.seenAt time
  | .probeExchange observed => op = .allowRequest ∧ found.state = .halfOpen ∧
      observed = found.halfOpenProbes ∧ ¬ cfg.halfOpenMaxProbes ≤ found.halfOpenProbes ∧
      b = found.seenAt time
  | .successSwap => op = .recordSuccess ∧ b = found.seenAt time
  | .successFailures => op = .recordSuccess ∧ b = { found.seenAt time with state := .closed }
  | .successProbes => op = .recordSuccess ∧
      b = { found.seenAt time with state := .closed, consecutiveFailures := 0 }
  | .successOpenedAt => op = .recordSuccess ∧
      b = { found.seenAt time with
        state := .closed, consecutiveFailures := 0, halfOpenProbes := 0 }
  | .failureLoad => op = .recordFailure ∧ b = found.seenAt time
  | .failureAdd => op = .recordFailure ∧ found.state ≠ .halfOpen ∧ b = found.seenAt time
  | .openSwap => op = .recordFailure ∧ ∃ x, Opening cfg found x ∧ b = x.seenAt time
  | .openClock => op = .recordFailure ∧
      ∃ x, Opening cfg found x ∧ b = { x.seenAt time with state := .opened }
  | .openStore nanos => op = .recordFailure ∧ ∃ x read, Opening cfg found x ∧
      found.clock ≤ read ∧ read ≤ time ∧ nanos = read % 2 ^ 64 ∧
      b = { x.seenAt time with state := .opened }
  | .openProbes => op = .recordFailure ∧ ∃ x read, Opening cfg found x ∧
      found.clock ≤ read ∧ read ≤ time ∧
      b = { x.seenAt time with state := .opened, openedAtNanos := read % 2 ^ 64 }
  | .idle answer => ∃ read, found.clock ≤ read ∧ read ≤ time ∧
      b = (conclude cfg (found.seenAt read) op).1.seenAt time ∧
      answer = some (conclude cfg (found.seenAt read) op).2
  | _ => False

/-- Inside an operation that was entered with the fields `entry`. -/
def Inside (op : Operation) (entry : Breaker) (time : Nat) (b : Breaker) : Point → Prop
  | .refreshLoad o => o = op ∧ b = entry.seenAt time
  | .refreshOpenedAt o => o = op ∧ entry.state = .opened ∧ b = entry.seenAt time
  | .refreshElapsed o nanos => o = op ∧ entry.state = .opened ∧ nanos = entry.openedAtNanos ∧
      nanos ≠ 0 ∧ b = entry.seenAt time
  | .refreshExchange o => o = op ∧ ∃ read, entry.clock ≤ read ∧ read ≤ time ∧
      Recovered cfg (entry.seenAt read) ∧ b = entry.seenAt time
  | .refreshProbes o => o = op ∧ ∃ read, entry.clock ≤ read ∧ read ≤ time ∧
      Recovered cfg (entry.seenAt read) ∧ b = { entry.seenAt time with state := .halfOpen }
  | .refreshFailures o => o = op ∧ ∃ read, entry.clock ≤ read ∧ read ≤ time ∧
      Recovered cfg (entry.seenAt read) ∧
      b = { entry.seenAt time with state := .halfOpen, halfOpenProbes := 0 }
  | p => ∃ read, entry.clock ≤ read ∧ read ≤ time ∧
      Concluding cfg op (refreshState cfg (entry.seenAt read)) time b p

variable {cfg} {op : Operation} {entry found b c : Breaker} {time : Nat} {p q : Point}

theorem conclude_clock (cfg : CircuitBreakerConfig) (found : Breaker) (op : Operation) :
    (conclude cfg found op).1.clock = found.clock := by
  cases op with
  | state => rfl
  | recordSuccess => rfl
  | allowRequest =>
    simp only [conclude, acquireHalfOpenProbe]
    split
    · rfl
    · rfl
    · split <;> rfl
  | recordFailure =>
    simp only [conclude]
    split
    · rfl
    · split <;> rfl

theorem conclude_opening {x : Breaker} (opening : Opening cfg found x) (time : Nat) :
    conclude cfg (found.seenAt time) .recordFailure = (openNow (x.seenAt time), .recorded) := by
  have same : (found.seenAt time).state = found.state := rfl
  have reaches : reachesThreshold cfg (found.seenAt time) = reachesThreshold cfg found := rfl
  rcases opening with ⟨trial, rfl⟩ | ⟨other, reached, rfl⟩
  · rw [conclude, same, if_pos trial]
  · rw [conclude, same, if_neg other, reaches, if_pos reached]
    rfl

theorem refreshState_recovered (recovered : Recovered cfg b) :
    refreshState cfg b =
      { b with state := .halfOpen, halfOpenProbes := 0, consecutiveFailures := 0 } := by
  obtain ⟨isOpen, stored, late⟩ := recovered
  rw [refreshState, if_neg (not_not.mpr isOpen), if_neg stored, if_neg (Nat.not_lt.mpr late)]

theorem inside_refreshed {read : Nat} (early : entry.clock ≤ read) (late : read ≤ time)
    (left : b = (refreshState cfg (entry.seenAt read)).seenAt time) :
    Inside cfg op entry time b (afterRefresh op) := by
  cases op with
  | _ => exact ⟨read, early, late, rfl, left⟩

theorem inside_concluding {read : Nat} (early : entry.clock ≤ read) (late : read ≤ time)
    (standing : Concluding cfg op (refreshState cfg (entry.seenAt read)) time b p) :
    Inside cfg op entry time b p := by
  cases p with
  | refreshLoad | refreshOpenedAt | refreshElapsed | refreshExchange | refreshProbes
  | refreshFailures => exact standing.elim
  | _ => exact ⟨read, early, late, standing⟩

theorem concluding_returned {x : Breaker} {answer : Answer} (refreshed : found.clock ≤ time)
    (returned : conclude cfg (found.seenAt time) op = (x, answer)) :
    Concluding cfg op found time x (.idle (some answer)) := by
  have clock := conclude_clock cfg (found.seenAt time) op
  rw [returned] at clock
  refine ⟨time, refreshed, Nat.le_refl _, ?_, ?_⟩
  · rw [returned]
    change x = { x with clock := (found.seenAt time).clock }
    rw [← clock]
  · rw [returned]

theorem concluding_advance {i : ι} {e : Event ι} (refreshed : found.clock ≤ time)
    (standing : Concluding cfg op found time b p) (taken : advance cfg i b p = some (c, q, e)) :
    Concluding cfg op found time c q := by
  cases p with
  | idle answer => cases taken
  | refreshLoad | refreshOpenedAt | refreshElapsed | refreshExchange | refreshProbes
  | refreshFailures => exact standing.elim
  | stateLoad =>
    obtain ⟨rfl, rfl⟩ := standing
    cases Option.some.inj taken
    exact concluding_returned refreshed rfl
  | allowLoad =>
    obtain ⟨rfl, rfl⟩ := standing
    have same : (found.seenAt time).state = found.state := rfl
    cases state : found.state with
    | halfOpen =>
      simp only [advance, same, state] at taken
      cases Option.some.inj taken
      exact ⟨rfl, state, rfl⟩
    | _ =>
      simp only [advance, same, state] at taken
      cases Option.some.inj taken
      exact concluding_returned refreshed (by simp only [conclude, same, state])
  | probeLoad =>
    obtain ⟨rfl, trial, rfl⟩ := standing
    cases Option.some.inj taken
    have same : (found.seenAt time).state = .halfOpen := trial
    by_cases spent : cfg.halfOpenMaxProbes ≤ found.halfOpenProbes
    · have full : cfg.halfOpenMaxProbes ≤ (found.seenAt time).halfOpenProbes := spent
      rw [if_pos full]
      apply concluding_returned refreshed
      simp only [conclude, same, acquireHalfOpenProbe, if_pos full]
    · have room : ¬ cfg.halfOpenMaxProbes ≤ (found.seenAt time).halfOpenProbes := spent
      rw [if_neg room]
      exact ⟨rfl, trial, rfl, spent, rfl⟩
  | probeExchange observed =>
    obtain ⟨rfl, trial, rfl, spent, rfl⟩ := standing
    have same : (found.seenAt time).state = .halfOpen := trial
    have room : ¬ cfg.halfOpenMaxProbes ≤ (found.seenAt time).halfOpenProbes := spent
    -- Nobody else is inside, so the value read is still there.
    have still : (found.seenAt time).halfOpenProbes = found.halfOpenProbes := rfl
    rw [advance, if_pos still] at taken
    cases Option.some.inj taken
    apply concluding_returned refreshed
    simp only [conclude, same, acquireHalfOpenProbe, if_neg room]
    rw [still]
  | successSwap | successFailures | successProbes =>
    obtain ⟨rfl, rfl⟩ := standing
    cases Option.some.inj taken
    exact ⟨rfl, rfl⟩
  | successOpenedAt =>
    obtain ⟨rfl, rfl⟩ := standing
    cases Option.some.inj taken
    exact concluding_returned refreshed rfl
  | failureLoad =>
    obtain ⟨rfl, rfl⟩ := standing
    cases Option.some.inj taken
    by_cases trial : found.state = .halfOpen
    · have same : (found.seenAt time).state = .halfOpen := trial
      rw [if_pos same]
      exact ⟨rfl, found, .inl ⟨trial, rfl⟩, rfl⟩
    · have same : (found.seenAt time).state ≠ .halfOpen := trial
      rw [if_neg same]
      exact ⟨rfl, trial, rfl⟩
  | failureAdd =>
    obtain ⟨rfl, other, rfl⟩ := standing
    cases Option.some.inj taken
    have same : (found.seenAt time).state ≠ .halfOpen := other
    cases reached : reachesThreshold cfg (found.seenAt time) with
    | true =>
      rw [if_pos (of_decide_eq_true reached)]
      exact ⟨rfl, countFailure found, .inr ⟨other, reached, rfl⟩, rfl⟩
    | false =>
      rw [if_neg (of_decide_eq_false reached)]
      apply concluding_returned refreshed
      rw [conclude, if_neg same, reached]
      rfl
  | openSwap =>
    obtain ⟨rfl, x, opening, rfl⟩ := standing
    cases Option.some.inj taken
    exact ⟨rfl, x, opening, rfl⟩
  | openClock =>
    obtain ⟨rfl, x, opening, rfl⟩ := standing
    cases Option.some.inj taken
    exact ⟨rfl, x, time, opening, refreshed, Nat.le_refl _, rfl, rfl⟩
  | openStore nanos =>
    obtain ⟨rfl, x, read, opening, early, late, rfl, rfl⟩ := standing
    cases Option.some.inj taken
    exact ⟨rfl, x, read, opening, early, late, rfl⟩
  | openProbes =>
    obtain ⟨rfl, x, read, opening, early, late, rfl⟩ := standing
    cases Option.some.inj taken
    refine ⟨read, early, late, ?_, ?_⟩
    · rw [conclude_opening opening]
      rfl
    · rw [conclude_opening opening]

theorem inside_advance {i : ι} {e : Event ι} (entered : entry.clock ≤ time)
    (inside : Inside cfg op entry time b p) (taken : advance cfg i b p = some (c, q, e)) :
    Inside cfg op entry time c q := by
  cases p with
  | refreshLoad o =>
    obtain ⟨rfl, rfl⟩ := inside
    cases Option.some.inj taken
    by_cases isOpen : (entry.seenAt time).state = .opened
    · rw [if_pos isOpen]
      exact ⟨rfl, isOpen, rfl⟩
    · rw [if_neg isOpen]
      refine inside_refreshed entered (Nat.le_refl _) ?_
      rw [refreshState, if_pos isOpen]
      rfl
  | refreshOpenedAt o =>
    obtain ⟨rfl, isOpen, rfl⟩ := inside
    cases Option.some.inj taken
    have same : ¬ (entry.seenAt time).state ≠ .opened := not_not.mpr isOpen
    by_cases unset : (entry.seenAt time).openedAtNanos = 0
    · rw [if_pos unset]
      refine inside_refreshed entered (Nat.le_refl _) ?_
      rw [refreshState, if_neg same, if_pos unset]
      rfl
    · rw [if_neg unset]
      exact ⟨rfl, isOpen, rfl, unset, rfl⟩
  | refreshElapsed o nanos =>
    obtain ⟨rfl, isOpen, rfl, unset, rfl⟩ := inside
    cases Option.some.inj taken
    have same : ¬ (entry.seenAt time).state ≠ .opened := not_not.mpr isOpen
    have stored : (entry.seenAt time).openedAtNanos ≠ 0 := unset
    by_cases early : (entry.seenAt time).clock - entry.openedAtNanos < cfg.recoveryTimeout.nanos
    · have soon : (entry.seenAt time).clock - (entry.seenAt time).openedAtNanos <
          cfg.recoveryTimeout.nanos := early
      rw [if_pos early]
      refine inside_refreshed entered (Nat.le_refl _) ?_
      rw [refreshState, if_neg same, if_neg stored, if_pos soon]
      rfl
    · rw [if_neg early]
      exact ⟨rfl, time, entered, Nat.le_refl _, ⟨isOpen, unset, Nat.le_of_not_lt early⟩, rfl⟩
  | refreshExchange o =>
    obtain ⟨rfl, read, early, late, recovered, rfl⟩ := inside
    have same : (entry.seenAt time).state = .opened := recovered.1
    rw [advance, if_pos same] at taken
    cases Option.some.inj taken
    exact ⟨rfl, read, early, late, recovered, rfl⟩
  | refreshProbes o =>
    obtain ⟨rfl, read, early, late, recovered, rfl⟩ := inside
    cases Option.some.inj taken
    exact ⟨rfl, read, early, late, recovered, rfl⟩
  | refreshFailures o =>
    obtain ⟨rfl, read, early, late, recovered, rfl⟩ := inside
    cases Option.some.inj taken
    refine inside_refreshed early late ?_
    rw [refreshState_recovered recovered]
    rfl
  | _ =>
    obtain ⟨read, early, late, standing⟩ := inside
    have refreshed : (refreshState cfg (entry.seenAt read)).clock ≤ time := by
      rw [refreshState_clock]
      exact late
    exact inside_concluding early late (concluding_advance refreshed standing taken)

theorem concluding_tick {later : Nat} (passed : time ≤ later)
    (standing : Concluding cfg op found time b p) :
    Concluding cfg op found later (b.seenAt later) p := by
  cases p with
  | refreshLoad | refreshOpenedAt | refreshElapsed | refreshExchange | refreshProbes
  | refreshFailures => exact standing.elim
  | idle answer =>
    obtain ⟨read, early, late, rfl, rfl⟩ := standing
    exact ⟨read, early, Nat.le_trans late passed, rfl, rfl⟩
  | stateLoad | allowLoad | successSwap | successFailures | successProbes | successOpenedAt
  | failureLoad =>
    obtain ⟨rfl, rfl⟩ := standing
    exact ⟨rfl, rfl⟩
  | probeLoad | failureAdd =>
    obtain ⟨rfl, known, rfl⟩ := standing
    exact ⟨rfl, known, rfl⟩
  | probeExchange observed =>
    obtain ⟨rfl, trial, rfl, room, rfl⟩ := standing
    exact ⟨rfl, trial, rfl, room, rfl⟩
  | openSwap | openClock =>
    obtain ⟨rfl, x, opening, rfl⟩ := standing
    exact ⟨rfl, x, opening, rfl⟩
  | openStore nanos =>
    obtain ⟨rfl, x, read, opening, early, late, rfl, rfl⟩ := standing
    exact ⟨rfl, x, read, opening, early, Nat.le_trans late passed, rfl, rfl⟩
  | openProbes =>
    obtain ⟨rfl, x, read, opening, early, late, rfl⟩ := standing
    exact ⟨rfl, x, read, opening, early, Nat.le_trans late passed, rfl⟩

theorem inside_tick {later : Nat} (passed : time ≤ later)
    (inside : Inside cfg op entry time b p) : Inside cfg op entry later (b.seenAt later) p := by
  cases p with
  | refreshLoad o =>
    obtain ⟨rfl, rfl⟩ := inside
    exact ⟨rfl, rfl⟩
  | refreshOpenedAt o =>
    obtain ⟨rfl, isOpen, rfl⟩ := inside
    exact ⟨rfl, isOpen, rfl⟩
  | refreshElapsed o nanos =>
    obtain ⟨rfl, isOpen, rfl, unset, rfl⟩ := inside
    exact ⟨rfl, isOpen, rfl, unset, rfl⟩
  | refreshExchange o | refreshProbes o | refreshFailures o =>
    obtain ⟨rfl, read, early, late, recovered, rfl⟩ := inside
    exact ⟨rfl, read, early, Nat.le_trans late passed, recovered, rfl⟩
  | _ =>
    obtain ⟨read, early, late, standing⟩ := inside
    exact ⟨read, early, Nat.le_trans late passed, concluding_tick passed standing⟩

/-! ## Whole schedules -/

variable [DecidableEq ι]

section

variable (cfg)

def visit (v : Visit ι) (a : Answered ι) : Answered ι :=
  let done := conclude cfg
    ((refreshState cfg (a.breaker.seenAt v.refreshed)).seenAt v.concluded) v.op
  ⟨done.1, Function.update a.answers v.caller (some done.2)⟩

/-- Nobody is inside, and but for the clock the fields and answers are these. -/
structure AtRest (w : World ι) (a : Answered ι) : Prop where
  fields : w.shared = a.breaker.seenAt w.shared.clock
  answers : ∀ i, w.thread i = .idle (a.answers i)
  past : a.breaker.clock ≤ w.shared.clock

structure Busy (w : World ι) (a : Answered ι) (s : Span ι) : Prop where
  inside : Inside cfg s.op (a.breaker.seenAt s.entered) w.shared.clock w.shared (w.thread s.caller)
  working : (w.thread s.caller).isIdle = false
  others : ∀ j, j ≠ s.caller → w.thread j = .idle (a.answers j)
  entered : s.entered ≤ w.shared.clock

/-- The operations that have returned are visits, and one more may be in progress. -/
def Noted (before : Answered ι) (w : World ι) (noted : Nat × List (Span ι)) : Prop :=
  noted.1 = w.shared.clock ∧
    ((∃ visits, List.Forall₂ Span.Holds noted.2 visits ∧
      AtRest w (visits.foldr (visit cfg) before)) ∨
    ∃ s earlier visits, noted.2 = s :: earlier ∧ List.Forall₂ Span.Holds earlier visits ∧
      Busy cfg w (visits.foldr (visit cfg) before) s)

end

variable {w u v : World ι} {before a : Answered ι} {s : Span ι}

theorem visit_clock (v : Visit ι) (a : Answered ι) : (visit cfg v a).breaker.clock = v.concluded :=
  conclude_clock cfg _ _

theorem AtRest.tick (rest : AtRest w a) {nanos : Nat}
    (taken : step cfg w (.environment nanos) = some u) :
    AtRest u a ∧ u.shared.clock = w.shared.clock + nanos := by
  obtain ⟨g, e, ticked, rfl⟩ := Interleaving.next_environment taken
  cases Option.some.inj ticked
  have later : w.shared.seenAt (w.shared.clock + nanos) =
      (a.breaker.seenAt w.shared.clock).seenAt (w.shared.clock + nanos) :=
    congrArg (Breaker.seenAt · _) rest.fields
  exact ⟨⟨later, rest.answers, Nat.le_trans rest.past (Nat.le_add_right _ _)⟩, rfl⟩

theorem AtRest.enters (rest : AtRest w a) {i : ι} {op : Operation}
    (taken : step cfg w (.thread i (.call op)) = some u) :
    Busy cfg u a ⟨i, op, w.shared.clock, w.shared.clock⟩ ∧ u.shared.clock = w.shared.clock := by
  obtain ⟨g, l, e, moved, rfl⟩ := Interleaving.next_thread taken
  obtain ⟨-, rfl, rfl, -⟩ := call_enters cfg moved
  refine ⟨⟨?_, ?_, fun j other => ?_, Nat.le_refl _⟩, rfl⟩
  · simp only [Function.update_self]
    exact ⟨rfl, rest.fields⟩
  · simp only [Function.update_self]
    rfl
  · simp only [Function.update_of_ne other]
    exact rest.answers j

theorem AtRest.refuses (rest : AtRest w a) (i : ι) : step cfg w (.thread i .advance) = none := by
  simp only [step, Interleaving.System.next, system, callerStep, rest.answers i, advance,
    Option.map_none]

theorem Busy.tick (busy : Busy cfg w a s) {nanos : Nat}
    (taken : step cfg w (.environment nanos) = some u) :
    Busy cfg u a s ∧ u.shared.clock = w.shared.clock + nanos := by
  obtain ⟨g, e, ticked, rfl⟩ := Interleaving.next_environment taken
  cases Option.some.inj ticked
  refine ⟨⟨?_, busy.working, busy.others, Nat.le_trans busy.entered (Nat.le_add_right _ _)⟩, rfl⟩
  exact inside_tick (Nat.le_add_right _ nanos) busy.inside

theorem Busy.advances (busy : Busy cfg w a s) {i : ι}
    (taken : step cfg w (.thread i .advance) = some u) :
    u.shared.clock = w.shared.clock ∧
      (Busy cfg u a { s with returned := w.shared.clock } ∨
        ∃ v, Span.Holds { s with returned := w.shared.clock } v ∧ AtRest u (visit cfg v a)) := by
  obtain ⟨g, l, e, moved, rfl⟩ := Interleaving.next_thread taken
  have own : i = s.caller := by
    by_contra other
    rw [busy.others i other] at moved
    cases moved
  subst own
  have clock : g.clock = w.shared.clock := (advance_effect moved).2
  have inside := inside_advance busy.entered busy.inside moved
  have others : ∀ j, j ≠ s.caller →
      Function.update w.thread s.caller l j = .idle (a.answers j) := by
    intro j other
    rw [Function.update_of_ne other]
    exact busy.others j other
  refine ⟨clock, ?_⟩
  cases working : l.isIdle with
  | false =>
    refine .inl ⟨?_, ?_, others, ?_⟩
    · simp only [Function.update_self, clock]
      exact inside
    · simp only [Function.update_self]
      exact working
    · simp only [clock]
      exact busy.entered
  | true =>
    obtain ⟨answer, rfl⟩ : ∃ answer, l = .idle answer := by
      cases l with
      | idle answer => exact ⟨answer, rfl⟩
      | _ => cases working
    obtain ⟨refreshed, early, -, concluded, later, last, left, answered⟩ := inside
    rw [refreshState_clock] at later
    refine .inr ⟨⟨s.caller, s.op, refreshed, concluded⟩, ⟨rfl, rfl, early, later, last⟩, ?_, ?_, ?_⟩
    · simp only [clock]
      exact left
    · intro j
      by_cases own : j = s.caller
      · subst own
        simp only [visit, Function.update_self]
        rw [answered]
        rfl
      · simp only [visit, Function.update_of_ne own]
        exact busy.others j own
    · rw [visit_clock, clock]
      exact last

theorem noted_step {noted : Nat × List (Span ι)} {act : Action ι} (held : Noted cfg before w noted)
    (alternates : Alternates w act) (taken : step cfg w act = some u) :
    Noted cfg before u (note noted act) := by
  obtain ⟨clock, ⟨visits, same, rest⟩ | ⟨s, earlier, visits, latest, same, busy⟩⟩ := held
  · cases act with
    | environment nanos =>
      obtain ⟨rest, later⟩ := rest.tick taken
      exact ⟨(congrArg (· + nanos) clock).trans later.symm, .inl ⟨visits, same, rest⟩⟩
    | thread i move =>
      cases move with
      | advance =>
        rw [rest.refuses i] at taken
        cases taken
      | call op =>
        obtain ⟨busy, still⟩ := rest.enters taken
        rw [← clock] at busy
        exact ⟨clock.trans still.symm, .inr ⟨_, noted.2, visits, rfl, same, busy⟩⟩
  · cases act with
    | environment nanos =>
      obtain ⟨busy, later⟩ := busy.tick taken
      exact ⟨(congrArg (· + nanos) clock).trans later.symm,
        .inr ⟨s, earlier, visits, latest, same, busy⟩⟩
    | thread i move =>
      cases move with
      | call op =>
        have idle := alternates s.caller
        rw [busy.working] at idle
        cases idle
      | advance =>
        obtain ⟨still, ends⟩ := busy.advances taken
        refine ⟨clock.trans still.symm, ?_⟩
        rw [note, latest, List.modifyHead_cons, clock]
        rcases ends with busy | ⟨v, holds, rest⟩
        · exact .inr ⟨_, earlier, visits, rfl, same, busy⟩
        · exact .inl ⟨v :: visits, .cons holds same, rest⟩

theorem noted_run {noted : Nat × List (Span ι)} {actions : List (Action ι)}
    (held : Noted cfg before w noted) (alternates : Along (step cfg) Alternates w actions)
    (ends : run (step cfg) w actions = some v) : Noted cfg before v (actions.foldl note noted) := by
  induction actions generalizing w noted with
  | nil =>
    cases Option.some.inj ends
    exact held
  | cons act rest ih =>
    obtain ⟨u, taken, later⟩ := run_cons ends
    exact ih (noted_step held alternates.1 taken) (alternates.2 u taken) later

theorem spans_visited {actions : List (Action ι)} (rest : AtRest w a)
    (alternates : Along (step cfg) Alternates w actions)
    (ends : run (step cfg) w actions = some v) (quiet : Quiescent v) :
    ∃ visits, List.Forall₂ Span.Holds (spans w.shared.clock actions) visits ∧
      AtRest v (visits.foldr (visit cfg) a) := by
  have initial : Noted cfg a w (w.shared.clock, []) := ⟨rfl, .inl ⟨[], .nil, rest⟩⟩
  rcases (noted_run initial alternates ends).2 with visited | ⟨s, _, _, _, _, busy⟩
  · exact visited
  · have idle := quiet s.caller
    rw [busy.working] at idle
    cases idle

/-! ## Operations that take no time -/

variable (cfg) in
def performed (s : Span ι) (x : Session × (ι → Option Answer)) :
    Session × (ι → Option Answer) :=
  let wait := s.entered - x.1.breaker.clock
  (x.1.call cfg ⟨wait, s.op⟩,
    Function.update x.2 s.caller (some (record cfg (x.1.breaker.after wait) s.op).answer))

theorem refreshState_still (cfg : CircuitBreakerConfig) (b : Breaker) :
    (refreshState cfg b).seenAt b.clock = refreshState cfg b := by
  calc (refreshState cfg b).seenAt b.clock
      = (refreshState cfg b).seenAt (refreshState cfg b).clock := by rw [refreshState_clock]
    _ = refreshState cfg b := rfl

variable (cfg) in
theorem visit_performed {v : Visit ι} {x : Session × (ι → Option Answer)} (holds : s.Holds v)
    (instant : s.entered = s.returned) (past : x.1.breaker.clock ≤ s.entered) :
    visit cfg v ⟨x.1.breaker, x.2⟩ = ⟨(performed cfg s x).1.breaker, (performed cfg s x).2⟩ := by
  have early := holds.entered
  have ordered := holds.ordered
  have last := holds.returned
  have refreshed : v.refreshed = s.entered := by omega
  have concluded : v.concluded = s.entered := by omega
  have now : x.1.breaker.seenAt s.entered = x.1.breaker.after (s.entered - x.1.breaker.clock) := by
    rw [Breaker.after, Nat.add_sub_cancel' past]
    rfl
  have still := refreshState_still cfg (x.1.breaker.seenAt s.entered)
  simp only [visit, refreshed, concluded, holds.caller, holds.op]
  rw [show (refreshState cfg (x.1.breaker.seenAt s.entered)).seenAt s.entered = _ from still,
    ← perform_conclude, now]
  rfl

variable (cfg) in
theorem visits_performed {clock : Nat} {spans : List (Span ι)} {visits : List (Visit ι)}
    (same : List.Forall₂ Span.Holds spans visits) (ordered : Sequenced clock spans)
    (instant : ∀ s ∈ spans, s.entered = s.returned) (x : Session × (ι → Option Answer))
    (past : x.1.breaker.clock ≤ clock) :
    (spans.foldr (performed cfg) x).1.breaker.clock ≤ latest clock spans ∧
      visits.foldr (visit cfg) ⟨x.1.breaker, x.2⟩ =
        ⟨(spans.foldr (performed cfg) x).1.breaker, (spans.foldr (performed cfg) x).2⟩ := by
  induction same with
  | nil => exact ⟨past, rfl⟩
  | @cons s v earlier visits holds _ ih =>
    obtain ⟨soon, visited⟩ := ih ordered.2 fun r member => instant r (List.mem_cons_of_mem _ member)
    have here := instant s List.mem_cons_self
    have performs := visit_performed cfg holds here (Nat.le_trans soon ordered.1)
    rw [List.foldr_cons, List.foldr_cons, visited]
    refine ⟨?_, performs⟩
    have clock := congrArg (fun a => a.breaker.clock) performs
    rw [visit_clock] at clock
    simp only at clock
    rw [← clock]
    exact holds.returned

/-! ## Every session comes about -/

/-- The moments of the visits come in their order, the latest visit first. -/
def Timely (clock : Nat) : List (Visit ι) → Prop
  | [] => True
  | v :: earlier => ((earlier.head?.map Visit.concluded).getD clock) ≤ v.refreshed ∧
      v.refreshed ≤ v.concluded ∧ Timely clock earlier

variable (cfg) in
/-- Some schedule without overlaps leads from one state to the other. -/
def Scheduled (w u : World ι) : Prop :=
  ∃ actions, run (step cfg) w actions = some u ∧ Along (step cfg) Alternates w actions

theorem Scheduled.trans (first : Scheduled cfg w u) (second : Scheduled cfg u v) :
    Scheduled cfg w v := by
  obtain ⟨as, reached, alternates⟩ := first
  obtain ⟨bs, ends, later⟩ := second
  exact ⟨as ++ bs, run_append reached ends, along_append reached alternates later⟩

variable (cfg) in
theorem scheduled_wait {later : Nat} (passed : w.shared.clock ≤ later) :
    ∃ u, Scheduled cfg w u ∧ u.shared = w.shared.seenAt later ∧ u.thread = w.thread := by
  refine ⟨_, ⟨[.environment (later - w.shared.clock)], rfl, trivial, fun _ _ => trivial⟩, ?_, rfl⟩
  simp only [Breaker.seenAt, Nat.add_sub_cancel' passed]

variable (cfg) in
theorem scheduled_call (quiet : Quiescent w) {i : ι} {answer : Option Answer}
    (idle : w.thread i = .idle answer) (op : Operation) :
    ∃ u, Scheduled cfg w u ∧ u.shared = w.shared ∧
      u.thread = Function.update w.thread i (.refreshLoad op) := by
  refine ⟨⟨w.shared, Function.update w.thread i (.refreshLoad op), .quiet i :: w.history⟩,
    ⟨[.thread i (.call op)], ?_, quiet, fun _ _ => trivial⟩, rfl, rfl⟩
  simp only [run, step, Interleaving.System.next, system, callerStep, idle, Option.map_some,
    Option.bind_some]

theorem scheduled_alone {i : ι} {x y : Breaker × Point} (steps : Alone cfg i x y)
    (shared : w.shared = x.1) (here : w.thread i = x.2) :
    ∃ u, Scheduled cfg w u ∧ u.shared = y.1 ∧ u.thread = Function.update w.thread i y.2 := by
  obtain ⟨n, u, ends, left, threads⟩ := steps.run cfg i w shared here
  refine ⟨u, ⟨_, ends, along_of_mem (fun act member s => ?_) w⟩, left, threads⟩
  rw [List.eq_of_mem_replicate member]
  trivial

theorem visit_scheduled (rest : AtRest w a) (v : Visit ι) (begins : w.shared.clock ≤ v.refreshed)
    (ordered : v.refreshed ≤ v.concluded) :
    ∃ u, Scheduled cfg w u ∧ AtRest u (visit cfg v a) ∧ u.shared.clock = v.concluded := by
  obtain ⟨ready, waits, still, calm⟩ := scheduled_wait cfg begins
  have entry : ready.shared = a.breaker.seenAt v.refreshed := by
    rw [still, rest.fields]
    rfl
  have idle : ∀ i, ready.thread i = .idle (a.answers i) := by
    rw [calm]
    exact rest.answers
  have quiet : Quiescent ready := fun i => by rw [idle i]; rfl
  obtain ⟨entered, calls, same, called⟩ := scheduled_call cfg quiet (idle v.caller) v.op
  obtain ⟨refreshed, refreshes, found, returned⟩ := scheduled_alone
    (refreshState_alone cfg v.caller (a.breaker.seenAt v.refreshed) v.op) (same.trans entry)
    (by rw [called, Function.update_self])
  have clock : refreshed.shared.clock = v.refreshed := by
    rw [found]
    exact refreshState_clock cfg _
  obtain ⟨resumed, pauses, later, kept⟩ := scheduled_wait cfg (clock.trans_le ordered)
  rw [found] at later
  obtain ⟨u, concludes, done, answered⟩ := scheduled_alone
    (conclude_alone cfg v.caller
      ((refreshState cfg (a.breaker.seenAt v.refreshed)).seenAt v.concluded) v.op)
    later (by rw [kept, returned, Function.update_self])
  have left : u.shared = (visit cfg v a).breaker := done
  have ends : u.shared.clock = v.concluded := by rw [left, visit_clock]
  refine ⟨u, (((waits.trans calls).trans refreshes).trans pauses).trans concludes,
    ⟨?_, fun i => ?_, Nat.le_of_eq (congrArg Breaker.clock left.symm)⟩, ends⟩
  · rw [← left]
    rfl
  · rw [answered, kept, returned, called, calm, Function.update_idem, Function.update_idem]
    by_cases own : i = v.caller
    · subst own
      simp only [visit, Function.update_self]
    · simp only [visit, Function.update_of_ne own]
      exact rest.answers i

variable (cfg) in
theorem visits_scheduled (rest : AtRest w a) {visits : List (Visit ι)}
    (timely : Timely w.shared.clock visits) :
    ∃ u, Scheduled cfg w u ∧ AtRest u (visits.foldr (visit cfg) a) ∧
      u.shared.clock = (visits.head?.map Visit.concluded).getD w.shared.clock := by
  induction visits with
  | nil => exact ⟨w, ⟨[], rfl, trivial⟩, rest, rfl⟩
  | cons v earlier ih =>
    obtain ⟨begins, ordered, before⟩ := timely
    obtain ⟨x, reached, there, clock⟩ := ih before
    obtain ⟨u, visited, left, ends⟩ := visit_scheduled there v (clock.trans_le begins) ordered
    exact ⟨u, reached.trans visited, left, ends⟩

/- A failure is recorded at 5 and opens the breaker at 8, three nanoseconds into the call. At
15 another caller is still refused, and at 18 it gets the probe. -/
def slowFailure : List (Action (Fin 2)) :=
  .environment 5 :: .thread first (.call .recordFailure) :: advances first 4 ++
    .environment 3 :: advances first 3 ++
    .environment 7 :: .thread second (.call .allowRequest) :: advances second 4 ++
    .environment 3 :: .thread second (.call .allowRequest) :: advances second 9

end SdkworkRpc.CircuitBreaker
