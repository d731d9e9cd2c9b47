import Mathlib.Logic.Basic

/-! Runs of a partial step function. A refused action ends no run: a list of
actions is a run only when every one of them is enabled where it stands. -/
namespace Run

variable {S A : Type*}

/-- The state after a list of actions, absent when one of them is refused. -/
def run (step : S → A → Option S) : S → List A → Option S
  | s, [] => some s
  | s, a :: rest => (step s a).bind fun t => run step t rest

/-- Every action is taken in a state that meets the condition for it. -/
def Along (step : S → A → Option S) (ok : S → A → Prop) : S → List A → Prop
  | _, [] => True
  | s, a :: rest => ok s a ∧ ∀ t, step s a = some t → Along step ok t rest

/-- The property holds of every state visited, the first and the last included. -/
def Throughout (step : S → A → Option S) (good : S → Prop) : S → List A → Prop
  | s, [] => good s
  | s, a :: rest => good s ∧ ∀ t, step s a = some t → Throughout step good t rest

instance decidableAlong (step : S → A → Option S) (ok : S → A → Prop)
    [∀ s a, Decidable (ok s a)] : (s : S) → (as : List A) → Decidable (Along step ok s as)
  | _, [] => isTrue trivial
  | s, a :: rest =>
    match h : step s a with
    | none => decidable_of_iff (ok s a) ⟨fun k => ⟨k, by simp [h]⟩, And.left⟩
    | some t =>
      have := decidableAlong step ok t rest
      decidable_of_iff (ok s a ∧ Along step ok t rest)
        ⟨fun k => ⟨k.1, fun u hu => Option.some.inj (h.symm.trans hu) ▸ k.2⟩,
          fun k => ⟨k.1, k.2 t h⟩⟩

theorem run_cons {step : S → A → Option S} {s t : S} {a : A} {rest : List A}
    (ends : run step s (a :: rest) = some t) :
    ∃ u, step s a = some u ∧ run step u rest = some t :=
  Option.bind_eq_some_iff.mp ends

theorem run_append {step : S → A → Option S} {s t u : S} {as bs : List A}
    (first : run step s as = some t) (second : run step t bs = some u) :
    run step s (as ++ bs) = some u := by
  induction as generalizing s with
  | nil =>
    cases Option.some.inj first
    exact second
  | cons a rest ih =>
    obtain ⟨v, hv, tail⟩ := run_cons first
    rw [List.cons_append, run, hv]
    exact ih tail

theorem along_append {step : S → A → Option S} {ok : S → A → Prop} {s t : S} {as bs : List A}
    (ends : run step s as = some t) (first : Along step ok s as) (second : Along step ok t bs) :
    Along step ok s (as ++ bs) := by
  induction as generalizing s with
  | nil =>
    cases Option.some.inj ends
    exact second
  | cons a rest ih =>
    obtain ⟨u, hu, tail⟩ := run_cons ends
    refine ⟨first.1, fun v hv => ?_⟩
    cases Option.some.inj (hu.symm.trans hv)
    exact ih tail (first.2 u hu)

theorem along_and {step : S → A → Option S} {ok also : S → A → Prop} {s : S} {as : List A}
    (first : Along step ok s as) (second : Along step also s as) :
    Along step (fun s a => ok s a ∧ also s a) s as := by
  induction as generalizing s with
  | nil => trivial
  | cons a rest ih =>
    exact ⟨⟨first.1, second.1⟩, fun t ht => ih (first.2 t ht) (second.2 t ht)⟩

/-- The invariant rule: what every permitted step preserves holds at the end of
every run whose steps are all permitted. -/
theorem run_invariant (step : S → A → Option S) (ok : S → A → Prop) (inv : S → Prop)
    (preserves : ∀ s a t, inv s → ok s a → step s a = some t → inv t)
    (as : List A) (s t : S) (initial : inv s) (meets : Along step ok s as)
    (ends : run step s as = some t) : inv t := by
  induction as generalizing s with
  | nil =>
    cases Option.some.inj ends
    exact initial
  | cons a rest ih =>
    obtain ⟨u, hu, tail⟩ := run_cons ends
    exact ih u (preserves s a u initial meets.1 hu) (meets.2 u hu) tail

theorem along_of_mem {step : S → A → Option S} {ok : S → A → Prop} {as : List A}
    (all : ∀ a ∈ as, ∀ s, ok s a) (s : S) : Along step ok s as := by
  induction as generalizing s with
  | nil => trivial
  | cons a rest ih =>
    obtain ⟨here, later⟩ := List.forall_mem_cons.mp all
    exact ⟨here s, fun t _ => ih later t⟩

theorem run_preserves (step : S → A → Option S) (inv : S → Prop)
    (preserves : ∀ s a t, inv s → step s a = some t → inv t)
    (as : List A) (s t : S) (initial : inv s) (ends : run step s as = some t) : inv t :=
  run_invariant step (fun _ _ => True) inv (fun s a t held _ => preserves s a t held) as s t
    initial (along_of_mem (fun _ _ _ => trivial) s) ends

/-- When the invariant gives the property, and a step outside the condition
destroys it, the condition is exact: the property holds throughout a run if and
only if every step of the run meets the condition. The invariant may need more of
the steps than the condition says, as long as the run has it. -/
theorem throughout_iff_along_given (step : S → A → Option S) (given ok : S → A → Prop)
    (good inv : S → Prop) (holds : ∀ s, inv s → good s)
    (preserves : ∀ s a t, inv s → given s a → ok s a → step s a = some t → inv t)
    (breaks : ∀ s a t, inv s → ¬ ok s a → step s a = some t → ¬ good t)
    (as : List A) (s t : S) (initial : inv s) (meets : Along step given s as)
    (ends : run step s as = some t) :
    Throughout step good s as ↔ Along step ok s as := by
  induction as generalizing s with
  | nil => exact ⟨fun _ => trivial, fun _ => holds s initial⟩
  | cons a rest ih =>
    obtain ⟨u, hu, tail⟩ := run_cons ends
    have next : ∀ v, step s a = some v → v = u := fun v hv => Option.some.inj (hv.symm.trans hu)
    by_cases met : ok s a
    · have after := ih u (preserves s a u initial meets.1 met hu) (meets.2 u hu) tail
      constructor
      · intro h
        refine ⟨met, fun v hv => ?_⟩
        cases next v hv
        exact after.mp (h.2 u hu)
      · intro h
        refine ⟨holds s initial, fun v hv => ?_⟩
        cases next v hv
        exact after.mpr (h.2 u hu)
    -- The bad state is the next one, so it is visited whatever the rest of the run does.
    · constructor
      · intro h
        have good_u : good u := by
          have := h.2 u hu
          cases rest with
          | nil => exact this
          | cons b rest => exact this.1
        exact absurd good_u (breaks s a u initial met hu)
      · intro h
        exact absurd h.1 met

theorem throughout_iff_along (step : S → A → Option S) (ok : S → A → Prop)
    (good inv : S → Prop) (holds : ∀ s, inv s → good s)
    (preserves : ∀ s a t, inv s → ok s a → step s a = some t → inv t)
    (breaks : ∀ s a t, inv s → ¬ ok s a → step s a = some t → ¬ good t)
    (as : List A) (s t : S) (initial : inv s) (ends : run step s as = some t) :
    Throughout step good s as ↔ Along step ok s as :=
  throughout_iff_along_given step (fun _ _ => True) ok good inv holds
    (fun s a t held _ => preserves s a t held) breaks as s t initial
    (along_of_mem (fun _ _ _ => trivial) s) ends

end Run
