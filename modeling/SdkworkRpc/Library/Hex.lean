import Mathlib.Algebra.GroupWithZero.Nat
import Mathlib.Algebra.Group.Nat.Defs
import Mathlib.Data.List.Basic

/-! Numbers in lower-case hexadecimal digits of a fixed width, most significant first. -/
namespace Hex

def digit (n : Nat) : Char := "0123456789abcdef".toList.getD n '0'

def value (c : Char) : Option Nat :=
  if c.isDigit then some (c.toNat - '0'.toNat)
  else if 'a' ≤ c && c ≤ 'f' then some (c.toNat - 'a'.toNat + 10) else none

/-- The `width` last digits of a number. -/
def fixed : Nat → Nat → List Char
  | 0, _ => []
  | width + 1, n => digit (n / 16 ^ width % 16) :: fixed width n

def readFrom : Nat → List Char → Option Nat
  | n, [] => some n
  | n, c :: rest => (value c).bind fun d => readFrom (16 * n + d) rest

def read (cs : List Char) : Option Nat := readFrom 0 cs

theorem value_digit : ∀ n < 16, value (digit n) = some n := by decide

theorem fixed_length (width n : Nat) : (fixed width n).length = width := by
  induction width with
  | zero => rfl
  | succ width ih => rw [fixed, List.length_cons, ih]

theorem readFrom_fixed (width n : Nat) :
    readFrom (n / 16 ^ width) (fixed width n) = some n := by
  induction width with
  | zero => rw [Nat.pow_zero, Nat.div_one]; rfl
  | succ width ih =>
    have next : 16 * (n / 16 ^ (width + 1)) + n / 16 ^ width % 16 = n / 16 ^ width := by
      rw [Nat.pow_succ, ← Nat.div_div_eq_div_mul]
      exact Nat.div_add_mod _ _
    rw [fixed, readFrom, value_digit _ (Nat.mod_lt _ (by decide)), Option.bind_some, next]
    exact ih

theorem read_fixed {width n : Nat} (small : n < 16 ^ width) : read (fixed width n) = some n := by
  have whole := readFrom_fixed width n
  rwa [Nat.div_eq_of_lt small] at whole

theorem readFrom_total (n : Nat) {cs : List Char} (all : ∀ c ∈ cs, (value c).isSome = true) :
    ∃ m, readFrom n cs = some m := by
  induction cs generalizing n with
  | nil => exact ⟨n, rfl⟩
  | cons c rest ih =>
    obtain ⟨first, later⟩ := List.forall_mem_cons.mp all
    obtain ⟨d, is⟩ := Option.isSome_iff_exists.mp first
    rw [readFrom, is]
    exact ih (16 * n + d) later

theorem readFrom_le {n m : Nat} {cs : List Char} (result : readFrom n cs = some m) : n ≤ m := by
  induction cs generalizing n with
  | nil => exact Nat.le_of_eq (Option.some.inj result)
  | cons c rest ih =>
    obtain ⟨d, -, result⟩ := Option.bind_eq_some_iff.mp result
    have grown := ih result
    omega

theorem readFrom_ne_zero {n m d : Nat} {c : Char} {cs : List Char}
    (result : readFrom n cs = some m) (member : c ∈ cs) (is : value c = some d) (nonzero : d ≠ 0) :
    m ≠ 0 := by
  induction cs generalizing n with
  | nil => cases member
  | cons first rest ih =>
    obtain ⟨e, here, result⟩ := Option.bind_eq_some_iff.mp result
    rcases List.mem_cons.mp member with rfl | later
    · cases Option.some.inj (is.symm.trans here)
      have grown := readFrom_le result
      omega
    · exact ih result later

theorem fixed_digits {width n : Nat} {c : Char} (member : c ∈ fixed width n) :
    ∃ d < 16, c = digit d := by
  induction width with
  | zero => cases member
  | succ width ih =>
    rcases List.mem_cons.mp member with rfl | later
    · exact ⟨_, Nat.mod_lt _ (by decide), rfl⟩
    · exact ih later

end Hex
