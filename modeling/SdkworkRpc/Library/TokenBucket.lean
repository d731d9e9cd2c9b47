import Mathlib.Algebra.Order.Field.Basic
import Mathlib.Algebra.Order.Group.MinMax
import Mathlib.Data.Nat.Cast.Order.Ring
import Mathlib.Tactic.Linarith
import Mathlib.Tactic.Ring

/-! Token buckets over an ordered field. Tokens arrive at a constant rate up to a
capacity and each grant takes one, so the grants of a window are bounded by what the
bucket can hold and what arrives while the window is open. -/
namespace Tokens

variable {K : Type*} [LinearOrder K]

def inWindow (t0 t1 : K) : List K → Nat
  | [] => 0
  | t :: rest => (if t0 ≤ t ∧ t ≤ t1 then 1 else 0) + inWindow t0 t1 rest

theorem inWindow_before {t0 t1 : K} {grants : List K} (before : ∀ t ∈ grants, t < t0) :
    inWindow t0 t1 grants = 0 := by
  induction grants with
  | nil => rfl
  | cons t rest ih =>
    have outside : ¬ (t0 ≤ t ∧ t ≤ t1) :=
      fun inside => absurd inside.1 (not_le_of_gt (before t List.mem_cons_self))
    rw [inWindow, if_neg outside, Nat.zero_add]
    exact ih fun u hu => before u (List.mem_cons_of_mem t hu)

variable [Field K]

structure Bucket (K : Type*) where
  tokens : K
  last : K

def Bucket.refill (capacity rate : K) (b : Bucket K) (now : K) : Bucket K :=
  if b.last < now then ⟨min (b.tokens + (now - b.last) * rate) capacity, now⟩ else b

def Bucket.take (b : Bucket K) : Bucket K × Bool :=
  if 1 ≤ b.tokens then (⟨b.tokens - 1, b.last⟩, true) else (b, false)

/-- What is known of a bucket and the times of its grants. While the window is still
open, the tokens left and the grants made come out of the capacity and of what has
arrived since it opened. -/
structure Account (capacity rate : K) (b : Bucket K) (grants : List K) : Prop where
  nonneg : 0 ≤ b.tokens
  capped : b.tokens ≤ capacity
  past : ∀ t ∈ grants, t ≤ b.last
  balance : ∀ t0 t1, b.last ≤ t1 →
    (inWindow t0 t1 grants : K) + b.tokens ≤ capacity + rate * max 0 (b.last - t0)
  bound : ∀ t0 t1, t0 ≤ t1 → (inWindow t0 t1 grants : K) ≤ capacity + rate * (t1 - t0)

/-- The window from `start` on is the one that the tokens left are short of: what it could
have granted and has not is exactly what the bucket holds. -/
def Tight (capacity rate : K) (b : Bucket K) (grants : List K) (start : K) : Prop :=
  start ≤ b.last ∧ ∀ t1, b.last ≤ t1 →
    b.tokens + inWindow start t1 grants = capacity + rate * (b.last - start)

theorem tight_full (capacity rate now : K) : Tight capacity rate ⟨capacity, now⟩ [] now := by
  refine ⟨le_refl _, fun t1 _ => ?_⟩
  simp only [inWindow, Nat.cast_zero, sub_self, mul_zero]

variable [IsStrictOrderedRing K] {capacity rate : K} {b : Bucket K} {grants : List K}

theorem account_full (positive : 0 ≤ capacity) (steady : 0 ≤ rate) (now : K) :
    Account capacity rate ⟨capacity, now⟩ [] := by
  refine ⟨positive, le_refl _, fun t ht => (by cases ht), fun t0 t1 _ => ?_, fun t0 t1 later => ?_⟩
  · have arrived : 0 ≤ rate * max 0 (now - t0) := mul_nonneg steady (le_max_left ..)
    simp only [inWindow, Nat.cast_zero]
    linarith
  · have arrived : 0 ≤ rate * (t1 - t0) := mul_nonneg steady (sub_nonneg.mpr later)
    simp only [inWindow, Nat.cast_zero]
    linarith

theorem account_refill (steady : 0 ≤ rate) (held : Account capacity rate b grants) (now : K) :
    Account capacity rate (b.refill capacity rate now) grants := by
  unfold Bucket.refill
  by_cases later : b.last < now
  case neg =>
    rw [if_neg later]
    exact held
  rw [if_pos later]
  have arrived : 0 ≤ (now - b.last) * rate := mul_nonneg (sub_nonneg.mpr later.le) steady
  have added : 0 ≤ b.tokens + (now - b.last) * rate := add_nonneg held.nonneg arrived
  refine ⟨le_min added (le_trans held.nonneg held.capped), min_le_right .., fun t ht => ?_,
    fun t0 t1 opened => ?_, held.bound⟩
  · exact le_trans (held.past t ht) later.le
  · simp only at opened ⊢
    by_cases within : t0 ≤ b.last
    · have before := held.balance t0 t1 (le_trans later.le opened)
      have kept := min_le_left (b.tokens + (now - b.last) * rate) capacity
      rw [max_eq_right (sub_nonneg.mpr within)] at before
      rw [max_eq_right (sub_nonneg.mpr (le_trans within later.le))]
      have whole : rate * (now - t0) = rate * (b.last - t0) + (now - b.last) * rate := by ring
      linarith
    -- The window opens after the last call: no grant lies in it yet.
    · have empty : inWindow t0 t1 grants = 0 :=
        inWindow_before fun t ht => lt_of_le_of_lt (held.past t ht) (lt_of_not_ge within)
      have capped := min_le_right (b.tokens + (now - b.last) * rate) capacity
      have more : 0 ≤ rate * max 0 (now - t0) := mul_nonneg steady (le_max_left ..)
      rw [empty, Nat.cast_zero]
      linarith

theorem account_take (steady : 0 ≤ rate) (held : Account capacity rate b grants) :
    Account capacity rate b.take.1 (if b.take.2 = true then b.last :: grants else grants) := by
  unfold Bucket.take
  by_cases enough : 1 ≤ b.tokens
  case neg =>
    simp only [if_neg enough, Bool.false_eq_true, if_false]
    exact held
  simp only [if_pos enough, if_true]
  have left : 0 ≤ b.tokens - 1 := sub_nonneg.mpr enough
  have balance : ∀ t0 t1, b.last ≤ t1 → (inWindow t0 t1 (b.last :: grants) : K) +
      (b.tokens - 1) ≤ capacity + rate * max 0 (b.last - t0) := by
    intro t0 t1 opened
    have before := held.balance t0 t1 opened
    have one_more : (inWindow t0 t1 (b.last :: grants) : K) ≤ inWindow t0 t1 grants + 1 := by
      rw [inWindow]
      split <;> push_cast <;> linarith
    linarith
  refine ⟨left, by simp only; linarith [held.capped], fun t ht => ?_, balance,
    fun t0 t1 later => ?_⟩
  · rcases List.mem_cons.mp ht with rfl | earlier
    · exact le_refl _
    · exact held.past t earlier
  · by_cases opened : b.last ≤ t1
    · have now := balance t0 t1 opened
      have elapsed : max 0 (b.last - t0) ≤ t1 - t0 :=
        max_le (sub_nonneg.mpr later) (sub_le_sub_right opened t0)
      have arrived := mul_le_mul_of_nonneg_left elapsed steady
      linarith
    · have outside : ¬ (t0 ≤ b.last ∧ b.last ≤ t1) := fun inside => opened inside.2
      rw [inWindow, if_neg outside, Nat.zero_add]
      exact held.bound t0 t1 later

theorem refill_full (steady : 0 ≤ rate) {before now : K} (later : before ≤ now) :
    Bucket.refill capacity rate ⟨capacity, before⟩ now = ⟨capacity, now⟩ := by
  rcases later.lt_or_eq with passed | rfl
  · have arrived : 0 ≤ (now - before) * rate := mul_nonneg (sub_nonneg.mpr later) steady
    rw [Bucket.refill, if_pos passed, min_eq_right (le_add_of_nonneg_right arrived)]
  · exact if_neg (lt_irrefl _)

/-- A refill on the way makes no difference: what the cap takes away early it would have
taken away later. -/
theorem refill_refill (steady : 0 ≤ rate) (b : Bucket K) {early late : K} (later : early ≤ late) :
    (b.refill capacity rate early).refill capacity rate late = b.refill capacity rate late := by
  by_cases first : b.last < early
  case neg => rw [show b.refill capacity rate early = b from if_neg first]
  have filled : b.refill capacity rate early =
      ⟨min (b.tokens + (early - b.last) * rate) capacity, early⟩ := if_pos first
  rcases later.lt_or_eq with passed | rfl
  · have arrived : 0 ≤ (late - early) * rate := mul_nonneg (sub_nonneg.mpr later) steady
    have whole : b.tokens + (early - b.last) * rate + (late - early) * rate =
        b.tokens + (late - b.last) * rate := by ring
    rw [filled, Bucket.refill, Bucket.refill, if_pos passed, if_pos (lt_trans first passed),
      ← min_add_add_right, min_assoc, whole, min_eq_right (le_add_of_nonneg_right arrived)]
  · rw [filled, Bucket.refill, if_neg (lt_irrefl _)]

theorem tight_refill {start : K} (held : Tight capacity rate b grants start)
    (past : ∀ t ∈ grants, t ≤ b.last) (now : K) :
    Tight capacity rate (b.refill capacity rate now) grants start ∨
      Tight capacity rate (b.refill capacity rate now) grants now := by
  unfold Bucket.refill
  by_cases later : b.last < now
  case neg =>
    rw [if_neg later]
    exact .inl held
  rw [if_pos later]
  obtain ⟨begun, exactly⟩ := held
  rcases le_total (b.tokens + (now - b.last) * rate) capacity with room | full
  · refine .inl ⟨le_trans begun later.le, fun t1 opened => ?_⟩
    have before := exactly t1 (le_trans later.le opened)
    have whole : rate * (now - start) = rate * (b.last - start) + (now - b.last) * rate := by ring
    simp only [min_eq_left room]
    linarith
  · refine .inr ⟨le_refl _, fun t1 opened => ?_⟩
    have empty : inWindow now t1 grants = 0 :=
      inWindow_before fun t ht => lt_of_le_of_lt (past t ht) later
    simp only [min_eq_right full, empty, Nat.cast_zero, sub_self, mul_zero]

theorem tight_take {start : K} (held : Tight capacity rate b grants start) :
    Tight capacity rate b.take.1 (if b.take.2 = true then b.last :: grants else grants) start := by
  unfold Bucket.take
  by_cases enough : 1 ≤ b.tokens
  case neg =>
    simp only [if_neg enough, Bool.false_eq_true, if_false]
    exact held
  simp only [if_pos enough, if_true]
  obtain ⟨begun, exactly⟩ := held
  refine ⟨begun, fun t1 opened => ?_⟩
  have before := exactly t1 opened
  rw [inWindow, if_pos ⟨begun, opened⟩]
  push_cast
  linarith

/-- What the bucket holds is the least that any window up to now has left. -/
theorem tokens_least (held : Account capacity rate b grants) {start : K}
    (tight : Tight capacity rate b grants start) :
    b.tokens = capacity + rate * (b.last - start) - inWindow start b.last grants ∧
    ∀ t0, t0 ≤ b.last → b.tokens ≤ capacity + rate * (b.last - t0) - inWindow t0 b.last grants := by
  constructor
  · have exactly := tight.2 b.last (le_refl _)
    linarith
  · intro t0 within
    have before := held.balance t0 b.last (le_refl _)
    rw [max_eq_right (sub_nonneg.mpr within)] at before
    linarith

end Tokens
