import Mathlib.Data.List.Basic
import Mathlib.Order.Defs.PartialOrder

/-! Calls that leave no trace in the answers of the others. Two histories of one system
are compared that differ in hidden calls only; the states they lead to may differ, as long
as a relation holds between them that no hidden call breaks and no other call can see. -/
namespace Observation

variable {S A O T : Type*}

def observed (step : S → A → S × O) (shown : A → Bool) : S → List A → List O
  | _, [] => []
  | s, a :: rest =>
    if shown a then (step s a).2 :: observed step shown (step s a).1 rest
    else observed step shown (step s a).1 rest

/-- The calls follow one another under a clock that does not go back. -/
def Timed [LE T] (begins ends : A → T) : T → List A → Prop
  | _, [] => True
  | now, a :: rest => now ≤ begins a ∧ begins a ≤ ends a ∧ Timed begins ends (ends a) rest

/-- What a relation between the states of two runs has to satisfy: a hidden call on one
side keeps it, and a call shown on both sides answers alike and keeps it. -/
structure Unwinding [LE T] (step : S → A → S × O) (shown : A → Bool) (begins ends : A → T)
    (related : T → S → S → Prop) : Prop where
  hidden : ∀ now s t a, related now s t → now ≤ begins a → begins a ≤ ends a →
    shown a = false → related (ends a) (step s a).1 t
  alike : ∀ now s t a, related now s t → now ≤ begins a → begins a ≤ ends a →
    shown a = true → (step s a).2 = (step t a).2 ∧ related (ends a) (step s a).1 (step t a).1

variable [LE T] {step : S → A → S × O} {shown : A → Bool} {begins ends : A → T}
  {related : T → S → S → Prop}

theorem observed_filter (rule : Unwinding step shown begins ends related) {now : T} {s t : S}
    {history : List A} (start : related now s t) (timed : Timed begins ends now history) :
    observed step shown s history = observed step shown t (history.filter shown) := by
  induction history generalizing now s t with
  | nil => rfl
  | cons a rest ih =>
    obtain ⟨later, lasts, timed⟩ := timed
    cases h : shown a with
    | false =>
      have next := rule.hidden now s t a start later lasts h
      rw [List.filter_cons_of_neg (by simp [h]), observed, if_neg (by simp [h])]
      exact ih next timed
    | true =>
      obtain ⟨same, next⟩ := rule.alike now s t a start later lasts h
      rw [List.filter_cons_of_pos h, observed, observed, if_pos h, if_pos h, same, ih next timed]

/-- Histories that show the same calls show the same answers. -/
theorem observed_congr (rule : Unwinding step shown begins ends related) {now : T} {s : S}
    {first second : List A} (start : related now s s) (before : Timed begins ends now first)
    (after : Timed begins ends now second) (agree : first.filter shown = second.filter shown) :
    observed step shown s first = observed step shown s second := by
  rw [observed_filter rule start before, agree, ← observed_filter rule start after]

end Observation
