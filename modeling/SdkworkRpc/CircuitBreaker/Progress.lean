import SdkworkRpc.CircuitBreaker.OpenedAt
import SdkworkRpc.Library.Ghost

/-! How long an operation takes. The only loop is the one that reserves a probe, and it
turns only when another caller has changed the counter between a load and its exchange. -/
namespace SdkworkRpc.CircuitBreaker

open Run Machine

/- The steps to the end of the operation, when nobody else changes the counter of probes. An
exchange that will fail costs two more than one that will not. -/
def Point.effort (b : Breaker) : Point → Nat
  | .idle _ => 0
  | .refreshLoad _ => 12
  | .refreshOpenedAt _ => 11
  | .refreshElapsed _ _ => 10
  | .refreshExchange _ => 9
  | .refreshProbes _ => 8
  | .refreshFailures _ => 7
  | .stateLoad => 1
  | .allowLoad => 3
  | .probeLoad => 2
  | .probeExchange observed => if b.halfOpenProbes = observed then 1 else 3
  | .successSwap => 4
  | .successFailures => 3
  | .successProbes => 2
  | .successOpenedAt => 1
  | .failureLoad => 6
  | .failureAdd => 5
  | .openSwap => 4
  | .openClock => 3
  | .openStore _ => 2
  | .openProbes => 1

def Point.changes : Point → Nat
  | .idle _ => 0
  | .refreshLoad _ | .refreshOpenedAt _ | .refreshElapsed _ _ | .refreshExchange _ => 2
  | .refreshProbes _ => 2
  | .refreshFailures _ => 1
  | .stateLoad => 0
  | .allowLoad | .probeLoad | .probeExchange _ => 1
  | .successSwap | .successFailures | .successProbes => 1
  | .successOpenedAt => 0
  | .failureLoad | .failureAdd | .openSwap | .openClock | .openStore _ | .openProbes => 1

def probesChanged (b c : Breaker) : Nat := if c.halfOpenProbes = b.halfOpenProbes then 0 else 1

theorem effort_le (b : Breaker) (p : Point) : p.effort b ≤ 12 := by
  cases p with
  | probeExchange observed =>
    simp only [Point.effort]
    split <;> omega
  | _ => simp only [Point.effort]; omega

theorem probesChanged_le (b c : Breaker) : probesChanged b c ≤ 1 := by
  unfold probesChanged
  split <;> omega

/-- The step brings the operation nearer to its end, and uses up a change of the counter if
it makes one. -/
def Nearer (b c : Breaker) (p q : Point) : Prop :=
  q.effort c + 1 ≤ p.effort b ∧ q.changes + probesChanged b c ≤ p.changes

theorem nearer_afterRefresh {b c : Breaker} {p : Point} (op : Operation) (far : 7 ≤ p.effort b)
    (left : 1 ≤ p.changes) (kept : c.halfOpenProbes = b.halfOpenProbes) :
    Nearer b c p (afterRefresh op) := by
  have short : (afterRefresh op).effort c ≤ 6 ∧ (afterRefresh op).changes ≤ 1 := by
    cases op <;> simp [afterRefresh, Point.effort, Point.changes]
  unfold Nearer probesChanged
  rw [if_pos kept]
  omega

section

variable {ι : Type*} {cfg : CircuitBreakerConfig} {i : ι} {b c : Breaker} {p q : Point}
  {e : Event ι}

theorem advance_nearer (taken : advance cfg i b p = some (c, q, e)) : Nearer b c p q := by
  have once := probesChanged_le b c
  cases p <;> simp only [advance] at taken
  case idle => cases taken
  case refreshLoad op =>
    cases Option.some.inj taken
    split
    · simp [Nearer, Point.effort, Point.changes, probesChanged]
    · exact nearer_afterRefresh op (by simp [Point.effort]) (by simp [Point.changes]) rfl
  case refreshOpenedAt op =>
    cases Option.some.inj taken
    split
    · exact nearer_afterRefresh op (by simp [Point.effort]) (by simp [Point.changes]) rfl
    · simp [Nearer, Point.effort, Point.changes, probesChanged]
  case refreshElapsed op opened =>
    cases Option.some.inj taken
    split
    · exact nearer_afterRefresh op (by simp [Point.effort]) (by simp [Point.changes]) rfl
    · simp [Nearer, Point.effort, Point.changes, probesChanged]
  case refreshExchange op =>
    split at taken <;> cases Option.some.inj taken
    · simp [Nearer, Point.effort, Point.changes, probesChanged]
    · exact nearer_afterRefresh op (by simp [Point.effort]) (by simp [Point.changes]) rfl
  case refreshFailures op =>
    cases Option.some.inj taken
    exact nearer_afterRefresh op (by simp [Point.effort]) (by simp [Point.changes]) rfl
  case allowLoad =>
    split at taken <;> cases Option.some.inj taken <;>
      simp [Nearer, Point.effort, Point.changes, probesChanged]
  case probeExchange observed =>
    split at taken <;> cases Option.some.inj taken
    · rename_i unchanged
      simp only [Nearer, Point.effort, Point.changes, if_pos unchanged]
      omega
    -- A lost race: the loop turns, and the price for it was in the effort.
    · rename_i changed
      simp [Nearer, Point.effort, Point.changes, probesChanged, if_neg changed]
  case probeLoad =>
    cases Option.some.inj taken
    split <;> simp [Nearer, Point.effort, Point.changes, probesChanged]
  case failureLoad =>
    cases Option.some.inj taken
    split <;> simp [Nearer, Point.effort, Point.changes, probesChanged]
  case failureAdd =>
    cases Option.some.inj taken
    split <;> simp [Nearer, Point.effort, Point.changes, probesChanged]
  all_goals
    cases Option.some.inj taken
    simp only [Nearer, Point.effort, Point.changes]
    first | omega | simp [probesChanged]

theorem effort_other (b c : Breaker) (p : Point) :
    p.effort c ≤ p.effort b + 2 * probesChanged b c := by
  cases p with
  | probeExchange observed =>
    simp only [Point.effort, probesChanged]
    by_cases same : c.halfOpenProbes = b.halfOpenProbes
    · rw [same]
      omega
    · rw [if_neg same]
      split <;> split <;> omega
  | _ => simp only [Point.effort]; omega

theorem advance_enabled (cfg : CircuitBreakerConfig) (i : ι) (b : Breaker)
    (inside : p.isIdle = false) : ∃ r, advance cfg i b p = some r := by
  cases p with
  | idle answer => cases inside
  | refreshExchange op =>
    simp only [advance]
    split <;> exact ⟨_, rfl⟩
  | allowLoad =>
    simp only [advance]
    split <;> exact ⟨_, rfl⟩
  | probeExchange observed =>
    simp only [advance]
    split <;> exact ⟨_, rfl⟩
  | _ => exact ⟨_, rfl⟩

end

variable {ι : Type*} [DecidableEq ι]

def ownAdvance (i : ι) (_ : World ι) : Action ι → World ι → Nat
  | .thread j .advance, _ => if j = i then 1 else 0
  | _, _ => 0

def otherChange (i : ι) (s : World ι) : Action ι → World ι → Nat
  | .thread j _, t => if j = i then 0 else probesChanged s.shared t.shared
  | _, _ => 0

def anyAdvance (_ : World ι) : Action ι → World ι → Nat
  | .thread _ .advance, _ => 1
  | _, _ => 0

def anyCall (_ : World ι) : Action ι → World ι → Nat
  | .thread _ (.call _), _ => 1
  | _, _ => 0

def NoCallOf (i : ι) (_ : World ι) : Action ι → Prop
  | .thread j (.call _) => j ≠ i
  | _ => True

instance (i : ι) (s : World ι) : (act : Action ι) → Decidable (NoCallOf i s act)
  | .thread j (.call _) => inferInstanceAs (Decidable (j ≠ i))
  | .thread _ .advance => isTrue trivial
  | .environment _ => isTrue trivial

theorem step_enabled (cfg : CircuitBreakerConfig) (s : World ι) {i : ι}
    (inside : (s.thread i).isIdle = false) : ∃ t, step cfg s (.thread i .advance) = some t := by
  obtain ⟨r, taken⟩ := advance_enabled cfg i s.shared inside
  exact ⟨_, by simp only [step, Interleaving.System.next, system, callerStep, taken]; rfl⟩

theorem operation_pays (cfg : CircuitBreakerConfig) (i : ι) (s : World ι) (act : Action ι)
    (t : World ι) (ok : NoCallOf i s act) (taken : step cfg s act = some t) :
    (t.thread i).effort t.shared + ownAdvance i s act t ≤
      (s.thread i).effort s.shared + 2 * otherChange i s act t := by
  cases act with
  | environment nanos =>
    obtain ⟨g, e, moved, rfl⟩ := Interleaving.next_environment taken
    cases Option.some.inj moved
    have same :=
      effort_other s.shared { s.shared with clock := s.shared.clock + nanos } (s.thread i)
    simp only [probesChanged, if_true] at same
    simp only [ownAdvance, otherChange]
    omega
  | thread j a =>
    obtain ⟨c, q, e, moved, rfl⟩ := Interleaving.next_thread taken
    by_cases own : j = i
    · subst own
      cases a with
      | call op => exact absurd rfl ok
      | advance =>
        have nearer := (advance_nearer moved).1
        simp only [Function.update_self, ownAdvance, if_true]
        omega
    · have other := effort_other s.shared c (s.thread i)
      have still : ownAdvance i s (.thread j a) ⟨c, Function.update s.thread j q, e :: s.history⟩ =
          0 := by
        cases a with
        | call op => rfl
        | advance => exact if_neg own
      simp only [Function.update_of_ne (Ne.symm own), still, otherChange, if_neg own]
      omega

/- From any state and in any interleaving: the steps that an operation takes to its end are
twelve, and two for each time that another caller changes the counter meanwhile. -/
theorem operation_steps_bounded (cfg : CircuitBreakerConfig) (i : ι) (as : List (Action ι))
    (s t : World ι) (single : Along (step cfg) (NoCallOf i) s as)
    (ends : run (step cfg) s as = some t) :
    tally (step cfg) (ownAdvance i) s as ≤ 12 + 2 * tally (step cfg) (otherChange i) s as := by
  have paid := tally_amortised (step cfg) (NoCallOf i) (fun s => (s.thread i).effort s.shared)
    (ownAdvance i) (fun s a t => 2 * otherChange i s a t) (operation_pays cfg i) as s t single ends
  have most := effort_le s.shared (s.thread i)
  rw [tally_scaled] at paid
  omega

def halfOpenAtFifteen : List (Action (Fin 2)) :=
  openAtFive ++ .environment 10 :: .thread second (.call .state) :: advances second 7 ++
    [.thread first (.call .allowRequest), .thread second (.call .allowRequest)]

/-- The first caller has read the counter when the second takes the probe, and asks again. -/
def lostRace : List (Action (Fin 2)) := advances first 3 ++ advances second 4 ++ advances first 2

theorem operation_steps_lost_race :
    ∃ s t, run (step quickConfig) (start (Fin 2)) halfOpenAtFifteen = some s ∧
      run (step quickConfig) s lostRace = some t ∧
      t.thread first = .idle (some (.allowed false)) ∧
      tally (step quickConfig) (ownAdvance first) s lostRace = 5 ∧
      tally (step quickConfig) (otherChange first) s lostRace = 1 ∧
      tally (step quickConfig) (ownAdvance first) s lostRace ≤
        12 + 2 * tally (step quickConfig) (otherChange first) s lostRace :=
  ⟨_, _, rfl, rfl, rfl, rfl, rfl,
    operation_steps_bounded quickConfig first lostRace _ _ (by decide) rfl⟩

/-! ## All callers together -/

section

variable {κ : Type*} [Fintype κ]

/-- What a caller has still to do, and what it may still cost each of the others. -/
def Point.weight (κ : Type*) [Fintype κ] (b : Breaker) (p : Point) : Nat :=
  p.effort b + Fintype.card κ * (2 * p.changes)

def workLeft (s : World κ) : Nat := ∑ i, (s.thread i).weight κ s.shared

theorem workLeft_start : workLeft (start κ) = 0 :=
  Finset.sum_eq_zero fun _ _ => rfl

end

variable [Fintype ι]

theorem work_pays (cfg : CircuitBreakerConfig) (s : World ι) (act : Action ι) (t : World ι)
    (taken : step cfg s act = some t) :
    workLeft t + anyAdvance s act t ≤
      workLeft s + (4 * Fintype.card ι + 12) * anyCall s act t := by
  cases act with
  | environment nanos =>
    obtain ⟨g, e, moved, rfl⟩ := Interleaving.next_environment taken
    cases Option.some.inj moved
    exact Nat.le_add_right _ _
  | thread i a =>
    obtain ⟨c, q, e, moved, rfl⟩ := Interleaving.next_thread taken
    cases a with
    | call op =>
      obtain ⟨_, rfl, rfl, _⟩ := call_enters cfg moved
      have own : (Point.refreshLoad op).weight ι s.shared + Fintype.card ι * 0 + 0 ≤
          (s.thread i).weight ι s.shared + (4 * Fintype.card ι + 12) := by
        simp only [Point.weight, Point.effort, Point.changes]
        omega
      refine sum_pays i 0 ?_ ?_
      · simp only [Function.update_self, anyAdvance, anyCall, Nat.mul_one]
        exact own
      · intro j other
        simp only [Function.update_of_ne other]
        exact Nat.le_refl _
    | advance =>
      obtain ⟨nearer, used⟩ := advance_nearer moved
      have own : q.weight ι c + Fintype.card ι * (2 * probesChanged s.shared c) + 1 ≤
          (s.thread i).weight ι s.shared + 0 := by
        have scaled := Nat.mul_le_mul_left (Fintype.card ι) (Nat.mul_le_mul_left 2 used)
        rw [Nat.mul_add, Nat.mul_add] at scaled
        simp only [Point.weight]
        omega
      refine sum_pays i (2 * probesChanged s.shared c) ?_ ?_
      · simp only [Function.update_self, anyAdvance, anyCall, Nat.mul_zero]
        exact own
      · intro j other
        have cost := effort_other s.shared c (s.thread j)
        simp only [Function.update_of_ne other, Point.weight]
        omega

/-- Whatever is in progress can be finished, in as many steps as there is work. -/
theorem finishes (cfg : CircuitBreakerConfig) (s : World ι) :
    ∃ more t, (∀ act ∈ more, ∃ i, act = .thread i .advance) ∧
      run (step cfg) s more = some t ∧ Quiescent t := by
  induction work : workLeft s using Nat.strong_induction_on generalizing s with
  | h n ih =>
    by_cases rest : Quiescent s
    · exact ⟨[], s, nofun, rfl, rest⟩
    · obtain ⟨i, busy⟩ := not_forall.mp rest
      obtain ⟨u, taken⟩ := step_enabled cfg s (Bool.eq_false_iff.mpr busy)
      have less := work_pays cfg s (.thread i .advance) u taken
      simp only [anyAdvance, anyCall] at less
      obtain ⟨more, t, advances, ends, quiet⟩ := ih (workLeft u) (by omega) u rfl
      refine ⟨.thread i .advance :: more, t, ?_, ?_, quiet⟩
      · intro act member
        rcases List.mem_cons.mp member with rfl | later
        · exact ⟨i, rfl⟩
        · exact advances act later
      · rw [run, taken]
        exact ends

/- However many callers: the atomic steps of a run are bounded by the operations begun in it,
a caller inside an operation can always take its next step, and so what is in progress can
be finished from every state that is reached. -/
theorem breaker_operations_finish (cfg : CircuitBreakerConfig) (as : List (Action ι))
    (s : World ι) (ends : run (step cfg) (start ι) as = some s) :
    tally (step cfg) anyAdvance (start ι) as ≤
      (4 * Fintype.card ι + 12) * tally (step cfg) anyCall (start ι) as ∧
    (∀ i, (s.thread i).isIdle = false → ∃ t, step cfg s (.thread i .advance) = some t) ∧
    ∃ more t, (∀ act ∈ more, ∃ i, act = .thread i .advance) ∧
      run (step cfg) s more = some t ∧ Quiescent t := by
  have paid := tally_amortised (step cfg) (fun _ _ => True) workLeft anyAdvance
    (fun s a t => (4 * Fintype.card ι + 12) * anyCall s a t)
    (fun s a t _ taken => work_pays cfg s a t taken) as (start ι) s
    (along_of_mem (fun _ _ _ => trivial) _) ends
  rw [tally_scaled, workLeft_start] at paid
  exact ⟨by omega, fun i => step_enabled cfg s, finishes cfg s⟩

theorem breaker_operations_finish_lost_race :
    ∃ s, run (step quickConfig) (start (Fin 2)) (halfOpenAtFifteen ++ lostRace) = some s ∧
      tally (step quickConfig) anyAdvance (start (Fin 2)) (halfOpenAtFifteen ++ lostRace) = 23 ∧
      tally (step quickConfig) anyCall (start (Fin 2)) (halfOpenAtFifteen ++ lostRace) = 4 ∧
      tally (step quickConfig) anyAdvance (start (Fin 2)) (halfOpenAtFifteen ++ lostRace) ≤
        (4 * Fintype.card (Fin 2) + 12) *
          tally (step quickConfig) anyCall (start (Fin 2)) (halfOpenAtFifteen ++ lostRace) :=
  ⟨_, rfl, rfl, rfl,
    (breaker_operations_finish quickConfig (halfOpenAtFifteen ++ lostRace) _ rfl).1⟩

end SdkworkRpc.CircuitBreaker
