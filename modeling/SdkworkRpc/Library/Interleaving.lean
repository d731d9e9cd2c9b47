import SdkworkRpc.Library.Run
import Mathlib.Logic.Function.Basic

/-! Any number of threads over one shared state, taking indivisible steps in any
order, with an environment that moves the shared state on its own. Every step
leaves one event in the history, newest first. -/
namespace Interleaving

variable {ι G L A B E : Type*}

structure State (ι G L E : Type*) where
  shared : G
  thread : ι → L
  history : List E

inductive Action (ι A B : Type*) where
  | thread (i : ι) (a : A)
  | environment (b : B)

/-- One thread's step and one step of the environment; `none` is not enabled. -/
structure System (ι G L A B E : Type*) where
  step : ι → G → L → A → Option (G × L × E)
  environment : G → B → Option (G × E)

def System.next [DecidableEq ι] (m : System ι G L A B E) (s : State ι G L E) :
    Action ι A B → Option (State ι G L E)
  | .thread i a => (m.step i s.shared (s.thread i) a).map fun r =>
      ⟨r.1, Function.update s.thread i r.2.1, r.2.2 :: s.history⟩
  | .environment b => (m.environment s.shared b).map fun r =>
      ⟨r.1, s.thread, r.2 :: s.history⟩

variable [DecidableEq ι] {m : System ι G L A B E} {s t : State ι G L E}

theorem next_thread {i : ι} {a : A} (taken : m.next s (.thread i a) = some t) :
    ∃ g l e, m.step i s.shared (s.thread i) a = some (g, l, e) ∧
      t = ⟨g, Function.update s.thread i l, e :: s.history⟩ := by
  obtain ⟨⟨g, l, e⟩, hs, ht⟩ := Option.map_eq_some_iff.mp taken
  exact ⟨g, l, e, hs, ht.symm⟩

theorem next_environment {b : B} (taken : m.next s (.environment b) = some t) :
    ∃ g e, m.environment s.shared b = some (g, e) ∧ t = ⟨g, s.thread, e :: s.history⟩ := by
  obtain ⟨⟨g, e⟩, hs, ht⟩ := Option.map_eq_some_iff.mp taken
  exact ⟨g, e, hs, ht.symm⟩

/-- A proof outline: an invariant of the shared state and the history, and an
assertion about each thread at its own local state. -/
structure Outline (ι G L E : Type*) where
  common : G → List E → Prop
  own : ι → G → List E → L → Prop

def Outline.Holds (o : Outline ι G L E) (s : State ι G L E) : Prop :=
  o.common s.shared s.history ∧ ∀ i, o.own i s.shared s.history (s.thread i)

/-- The outline is kept when a thread re-establishes its own assertion, no thread
interferes with the assertion of another, and the environment breaks none. -/
theorem outline_preserved (o : Outline ι G L E) (ok : State ι G L E → Action ι A B → Prop)
    (sequential : ∀ s i a g l e, o.Holds s → ok s (.thread i a) →
      m.step i s.shared (s.thread i) a = some (g, l, e) →
      o.common g (e :: s.history) ∧ o.own i g (e :: s.history) l)
    (undisturbed : ∀ s i a g l e j, o.Holds s → ok s (.thread i a) →
      m.step i s.shared (s.thread i) a = some (g, l, e) → j ≠ i →
      o.own j g (e :: s.history) (s.thread j))
    (outside : ∀ s b g e, o.Holds s → ok s (.environment b) →
      m.environment s.shared b = some (g, e) →
      o.common g (e :: s.history) ∧ ∀ j, o.own j g (e :: s.history) (s.thread j))
    (s : State ι G L E) (act : Action ι A B) (t : State ι G L E) (held : o.Holds s)
    (permitted : ok s act) (taken : m.next s act = some t) : o.Holds t := by
  cases act with
  | thread i a =>
    obtain ⟨g, l, e, hs, rfl⟩ := next_thread taken
    have mine := sequential s i a g l e held permitted hs
    refine ⟨mine.1, fun j => ?_⟩
    by_cases same : j = i
    · subst same
      simpa using mine.2
    · simpa [Function.update_of_ne same] using
        undisturbed s i a g l e j held permitted hs same
  | environment b =>
    obtain ⟨g, e, hs, rfl⟩ := next_environment taken
    exact outside s b g e held permitted hs

end Interleaving
