import SdkworkRpc.Library.Run
import Mathlib.Algebra.Order.BigOperators.Group.Finset

/-! What a run adds up that its states do not hold. A tally weighs the steps of a run; a
ghost is carried along a run and never looked at by it. -/
namespace Run

variable {S A Γ : Type*}

/-- The weights of the steps of a run, added up. -/
def tally (step : S → A → Option S) (weight : S → A → S → Nat) : S → List A → Nat
  | _, [] => 0
  | s, a :: rest =>
    match step s a with
    | none => 0
    | some t => weight s a t + tally step weight t rest

theorem tally_cons {step : S → A → Option S} {weight : S → A → S → Nat} {s t : S} {a : A}
    (taken : step s a = some t) (rest : List A) :
    tally step weight s (a :: rest) = weight s a t + tally step weight t rest := by
  simp only [tally, taken]

theorem tally_scaled (step : S → A → Option S) (factor : Nat) (weight : S → A → S → Nat) (s : S)
    (as : List A) :
    tally step (fun s a t => factor * weight s a t) s as = factor * tally step weight s as := by
  induction as generalizing s with
  | nil => rfl
  | cons a rest ih =>
    cases taken : step s a with
    | none => simp only [tally, taken, Nat.mul_zero]
    | some t => rw [tally_cons taken, tally_cons taken, ih, Nat.mul_add]

/-- The amortised rule: when every permitted step pays what it spends out of the potential
and of what it earns, so does a whole run. -/
theorem tally_amortised (step : S → A → Option S) (ok : S → A → Prop) (potential : S → Nat)
    (spent earned : S → A → S → Nat)
    (pays : ∀ s a t, ok s a → step s a = some t →
      potential t + spent s a t ≤ potential s + earned s a t)
    (as : List A) (s t : S) (meets : Along step ok s as) (ends : run step s as = some t) :
    potential t + tally step spent s as ≤ potential s + tally step earned s as := by
  induction as generalizing s with
  | nil =>
    cases Option.some.inj ends
    exact Nat.le_refl _
  | cons a rest ih =>
    obtain ⟨u, taken, tail⟩ := run_cons ends
    have once := pays s a u meets.1 taken
    have later := ih u (meets.2 u taken) tail
    rw [tally_cons taken, tally_cons taken]
    omega

/-- A potential shared out among threads: the one that moves pays for what its step costs
every other. -/
theorem sum_pays {ι : Type*} [Fintype ι] [DecidableEq ι] {before after : ι → Nat} (i : ι)
    (cost : Nat) {spent earned : Nat}
    (own : after i + Fintype.card ι * cost + spent ≤ before i + earned)
    (others : ∀ j, j ≠ i → after j ≤ before j + cost) :
    (∑ j, after j) + spent ≤ (∑ j, before j) + earned := by
  have rest : ∑ j ∈ Finset.univ.erase i, after j ≤
      ∑ j ∈ Finset.univ.erase i, before j + Fintype.card ι * cost := by
    calc ∑ j ∈ Finset.univ.erase i, after j
        ≤ ∑ j ∈ Finset.univ.erase i, (before j + cost) :=
          Finset.sum_le_sum fun j member => others j (Finset.ne_of_mem_erase member)
      _ = ∑ j ∈ Finset.univ.erase i, before j + (Finset.univ.erase i).card * cost := by
          rw [Finset.sum_add_distrib, Finset.sum_const_nat fun _ _ => rfl]
      _ ≤ _ := Nat.add_le_add_left (Nat.mul_le_mul_right _ (Finset.card_le_univ _)) _
  rw [← Finset.add_sum_erase _ after (Finset.mem_univ i),
    ← Finset.add_sum_erase _ before (Finset.mem_univ i)]
  omega

def withGhost (step : S → A → Option S) (update : S → A → Γ → Γ) :
    S × Γ → A → Option (S × Γ) :=
  fun x a => (step x.1 a).map fun t => (t, update x.1 a x.2)

theorem withGhost_taken {step : S → A → Option S} {update : S → A → Γ → Γ} {x y : S × Γ} {a : A}
    (taken : withGhost step update x a = some y) :
    step x.1 a = some y.1 ∧ y.2 = update x.1 a x.2 := by
  obtain ⟨t, moved, rfl⟩ := Option.map_eq_some_iff.mp taken
  exact ⟨moved, rfl⟩

theorem run_withGhost {step : S → A → Option S} (update : S → A → Γ → Γ) (as : List A) {s t : S}
    (ends : run step s as = some t) (g : Γ) :
    ∃ left, run (withGhost step update) (s, g) as = some (t, left) := by
  induction as generalizing s g with
  | nil =>
    cases Option.some.inj ends
    exact ⟨g, rfl⟩
  | cons a rest ih =>
    obtain ⟨u, taken, tail⟩ := run_cons ends
    obtain ⟨left, later⟩ := ih tail (update s a g)
    refine ⟨left, ?_⟩
    simp only [run, withGhost, taken, Option.map_some, Option.bind_some]
    exact later

end Run
