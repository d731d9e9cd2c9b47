import Mathlib.Algebra.GroupWithZero.Nat
import Mathlib.Data.List.Range
import Mathlib.Order.Interval.Finset.Nat

/-! Picking by a counter. The counter's residues share a cycle out evenly as long as the
counter moves; widths laid end to end give each block as many slots as it is wide. -/
namespace Rotation

/-- The block a slot lies in, when blocks of the given widths are laid end to end. -/
def blockOf : List Nat → Nat → Option Nat
  | [], _ => none
  | width :: rest, slot =>
    if slot < width then some 0 else (blockOf rest (slot - width)).map (· + 1)

theorem blockOf_lt {widths : List Nat} {slot : Nat} (inside : slot < widths.sum) :
    ∃ i, i < widths.length ∧ blockOf widths slot = some i := by
  induction widths generalizing slot with
  | nil => cases inside
  | cons width rest ih =>
    rw [List.sum_cons] at inside
    by_cases first : slot < width
    · exact ⟨0, Nat.succ_pos _, if_pos first⟩
    · obtain ⟨i, short, found⟩ := ih (show slot - width < rest.sum by omega)
      exact ⟨i + 1, Nat.succ_lt_succ short, by rw [blockOf, if_neg first, found]; rfl⟩

theorem blockOf_count (widths : List Nat) {i : Nat} (short : i < widths.length) :
    ((List.range widths.sum).map (blockOf widths)).count (some i) = widths[i] := by
  induction widths generalizing i with
  | nil => cases short
  | cons width rest ih =>
    have first : (List.range width).map (blockOf (width :: rest)) =
        List.replicate width (some 0) := by
      apply List.eq_replicate_iff.mpr
      refine ⟨by simp, fun found member => ?_⟩
      obtain ⟨slot, inside, rfl⟩ := List.mem_map.mp member
      exact if_pos (List.mem_range.mp inside)
    have others : (List.range rest.sum).map (blockOf (width :: rest) ∘ (width + ·)) =
        ((List.range rest.sum).map (blockOf rest)).map (Option.map (· + 1)) := by
      rw [List.map_map]
      refine List.map_congr_left fun slot _ => ?_
      simp only [Function.comp_apply, blockOf, Nat.add_sub_cancel_left]
      exact if_neg (by omega)
    rw [List.sum_cons, List.range_add, List.map_append, List.map_map, List.count_append, first,
      others]
    cases i with
    | zero =>
      have apart :
          some 0 ∉ ((List.range rest.sum).map (blockOf rest)).map (Option.map (· + 1)) := by
        intro member
        obtain ⟨found, _, next⟩ := List.mem_map.mp member
        cases found <;> simp at next
      rw [List.count_replicate_self, List.count_eq_zero.mpr apart]
      rfl
    | succ i =>
      have next : some (i + 1) = Option.map (· + 1) (some i) := rfl
      rw [List.count_replicate, next,
        List.count_map_of_injective _ _ (Option.map_injective Nat.succ_injective),
        ih (Nat.lt_of_succ_lt_succ short)]
      simp

theorem residues_perm (start n : Nat) :
    ((List.range n).map fun k => (start + k) % n).Perm (List.range n) := by
  have whole := Nat.multiset_Ico_map_mod start n
  have values : List.range' start (start + n - start) = (List.range n).map (start + ·) := by
    rw [Nat.add_sub_cancel_left, List.range'_eq_map_range]
  have same : (((List.range' start (start + n - start)).map (· % n) : List Nat) : Multiset Nat) =
      (List.range n : Multiset Nat) := whole
  rw [values, List.map_map] at same
  exact Multiset.coe_eq_coe.mp same

/-- A counter that stops at `top` takes each position of a cycle once, unless it reaches
`top` before the last step of the cycle. -/
theorem rotates_iff {top start n : Nat} (within : start ≤ top) :
    (∀ i < n, ((List.range n).map fun k => min (start + k) top % n).count i = 1) ↔
      start + n ≤ top + 1 := by
  constructor
  · intro once
    by_contra late
    have unique : ((List.range n).map fun k => min (start + k) top % n).Nodup := by
      refine List.nodup_iff_count_le_one.mpr fun i => ?_
      by_cases inside : i < n
      · exact (once i inside).le
      · rw [List.count_eq_zero.mpr]
        · exact Nat.zero_le 1
        · intro member
          obtain ⟨k, short, rfl⟩ := List.mem_map.mp member
          have := List.mem_range.mp short
          exact inside (Nat.mod_lt _ (by omega))
    -- The last value is met twice: when the counter arrives there and one step later.
    have arrives : min (start + (top - start)) top = top := by omega
    have stays : min (start + (top - start + 1)) top = top := by omega
    have equal := List.inj_on_of_nodup_map unique
      (List.mem_range.mpr (show top - start < n by omega))
      (List.mem_range.mpr (show top - start + 1 < n by omega)) (by rw [arrives, stays])
    omega
  · intro early i inside
    have free : ((List.range n).map fun k => min (start + k) top % n) =
        (List.range n).map fun k => (start + k) % n := by
      refine List.map_congr_left fun k short => ?_
      have := List.mem_range.mp short
      rw [Nat.min_eq_left (by omega)]
    rw [free, (residues_perm start n).count_eq]
    exact List.count_eq_one_of_mem List.nodup_range (List.mem_range.mpr inside)

end Rotation
