import SdkworkRpc.CircuitBreaker.Probes
import SdkworkRpc.CircuitBreaker.Sequential

/-! A trial lasts until its outcome is recorded. Nothing in the source gives a probe back whose
caller never reports: there is no time limit on HalfOpen, as there is on Open. -/
namespace SdkworkRpc.CircuitBreaker

open Run

variable {ι : Type*}

def OnlyAsks (_ : World ι) : Action ι → Prop
  | .thread _ (.call op) => op = .state ∨ op = .allowRequest
  | _ => True

instance (s : World ι) : (act : Action ι) → Decidable (OnlyAsks s act)
  | .thread _ (.call op) => inferInstanceAs (Decidable (op = .state ∨ op = .allowRequest))
  | .thread _ .advance => isTrue trivial
  | .environment _ => isTrue trivial

/-- Inside a question that finds a trial under way, or turned away by one. -/
def Point.turnedAway : Point → Bool
  | .refreshLoad op => op = .state ∨ op = .allowRequest
  | .stateLoad | .allowLoad | .probeLoad => true
  | .idle (some answer) => answer = .allowed false ∨ answer = .state .halfOpen
  | _ => false

structure Spent (cfg : CircuitBreakerConfig) (b : Breaker) : Prop where
  trial : b.state = .halfOpen
  used : cfg.halfOpenMaxProbes ≤ b.halfOpenProbes

theorem advance_turnedAway {cfg : CircuitBreakerConfig} {i : ι} {b c : Breaker} {p q : Point}
    {e : Event ι} (spent : Spent cfg b) (here : p.turnedAway = true)
    (taken : advance cfg i b p = some (c, q, e)) : c = b ∧ q.turnedAway = true := by
  obtain ⟨trial, used⟩ := spent
  cases p <;> simp only [advance] at taken
  case idle => cases taken
  case refreshLoad op =>
    cases Option.some.inj taken
    rw [if_neg (by rw [trial]; decide)]
    rcases of_decide_eq_true here with rfl | rfl <;> exact ⟨rfl, rfl⟩
  case stateLoad =>
    cases Option.some.inj taken
    rw [trial]
    exact ⟨rfl, rfl⟩
  case allowLoad =>
    simp only [trial] at taken
    cases Option.some.inj taken
    exact ⟨rfl, rfl⟩
  case probeLoad =>
    cases Option.some.inj taken
    rw [if_pos used]
    exact ⟨rfl, rfl⟩
  all_goals cases here

variable [DecidableEq ι] {cfg : CircuitBreakerConfig}

/-- Where a run of questions leaves the breaker and the callers, from the state it began in. -/
structure Waiting (cfg : CircuitBreakerConfig) (s t : World ι) : Prop where
  spent : Spent cfg t.shared
  probes : t.shared.halfOpenProbes = s.shared.halfOpenProbes
  callers : ∀ i, t.thread i = s.thread i ∨ (t.thread i).turnedAway = true

theorem waiting_preserved {s : World ι} (rest : Quiescent s) (t : World ι) (act : Action ι)
    (u : World ι) (held : Waiting cfg s t) (asks : OnlyAsks t act)
    (taken : step cfg t act = some u) : Waiting cfg s u := by
  cases act with
  | environment nanos =>
    obtain ⟨c, e, moved, rfl⟩ := Interleaving.next_environment taken
    cases Option.some.inj moved
    exact ⟨⟨held.spent.trial, held.spent.used⟩, held.probes, held.callers⟩
  | thread i a =>
    obtain ⟨c, q, e, moved, rfl⟩ := Interleaving.next_thread taken
    have same : c = t.shared ∧ q.turnedAway = true := by
      cases a with
      | call op =>
        obtain ⟨_, rfl, rfl, _⟩ := call_enters cfg moved
        exact ⟨rfl, decide_eq_true asks⟩
      | advance =>
        rcases held.callers i with untouched | here
        · -- Nobody was inside an operation, so who has not called since cannot move.
          have idle := rest i
          rw [← untouched] at idle
          cases point : t.thread i <;> rw [point] at idle moved <;> cases idle
          cases moved
        · exact advance_turnedAway held.spent here moved
    obtain ⟨rfl, here⟩ := same
    refine ⟨held.spent, held.probes, fun j => ?_⟩
    by_cases own : j = i
    · subst own
      refine .inr ?_
      simp only [Function.update_self]
      exact here
    · simp only [Function.update_of_ne own]
      exact held.callers j

def askedLater : List (Action (Fin 2)) :=
  .environment 1000000 :: .thread second (.call .allowRequest) :: advances second 3

end SdkworkRpc.CircuitBreaker
