import Mathlib.Data.List.Basic

/-! Logs that grow at their end: the keys of the entries increase, and none is beyond the
last key given out. -/
namespace Log

variable {α : Type*} {key : α → Nat} {l : List α} {bound : Nat} {e d : α}

def Sorted (key : α → Nat) (l : List α) : Prop := l.Pairwise fun a b => key a < key b

theorem append_sorted (sorted : Sorted key l) (bounded : ∀ a ∈ l, key a ≤ bound)
    (later : bound < key e) : Sorted key (l ++ [e]) := by
  refine List.pairwise_append.mpr ⟨sorted, List.pairwise_singleton _ _, ?_⟩
  intro old member new appended
  cases List.mem_singleton.mp appended
  exact Nat.lt_of_le_of_lt (bounded old member) later

theorem append_bounded (bounded : ∀ a ∈ l, key a ≤ bound) (later : bound < key e) :
    ∀ a ∈ l ++ [e], key a ≤ key e := by
  intro a member
  rcases List.mem_append.mp member with old | appended
  · exact Nat.le_of_lt (Nat.lt_of_le_of_lt (bounded a old) later)
  · cases List.mem_singleton.mp appended
    exact Nat.le_refl _

theorem find_first {accepts : α → Bool} (sorted : Sorted key l)
    (found : l.find? accepts = some e) (member : d ∈ l) (accepted : accepts d = true) :
    key e ≤ key d := by
  induction l with
  | nil => cases member
  | cons x rest ih =>
    obtain ⟨first, sorted⟩ := List.pairwise_cons.mp sorted
    rw [List.find?_cons] at found
    split at found
    · cases Option.some.inj found
      rcases List.mem_cons.mp member with rfl | member
      · exact Nat.le_refl _
      · exact Nat.le_of_lt (first d member)
    · rename_i skipped
      rcases List.mem_cons.mp member with rfl | member
      · rw [accepted] at skipped
        cases skipped
      · exact ih sorted found member

theorem find_after {before after : List α} {accepts : α → Bool}
    (behind : ∀ a ∈ before, accepts a = false) (ahead : ∀ a ∈ after, accepts a = true) :
    (before ++ after).find? accepts = after.head? := by
  rw [List.find?_append, List.find?_eq_none.mpr fun a member => by simp [behind a member],
    Option.none_or]
  cases after with
  | nil => rfl
  | cons e rest => rw [List.find?_cons, ahead e List.mem_cons_self, List.head?_cons]

end Log
