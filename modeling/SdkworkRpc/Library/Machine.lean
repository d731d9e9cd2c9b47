import Mathlib.Algebra.Group.Int.Defs
import Mathlib.Algebra.Group.Nat.Defs

/-! Fixed-width integers and durations with the overflow rules of the language.
The values are plain numbers that carry their range as a field. -/
namespace Machine

def u32Max : Nat := 2 ^ 32 - 1
def u64Max : Nat := 2 ^ 64 - 1
def usizeMax : Nat := 2 ^ 64 - 1

/-- `saturating_add`: the sum, held at the largest value of the type. -/
def saturatingAdd (top a b : Nat) : Nat := min (a + b) top

theorem saturatingAdd_of_le {top a b : Nat} (fits : a + b ≤ top) :
    saturatingAdd top a b = a + b := Nat.min_eq_left fits

/-- `saturating_mul`. -/
def saturatingMul (top a b : Nat) : Nat := min (a * b) top

/-- A product held at the largest value is exact under any ceiling the type can hold. -/
theorem saturatingMul_clamped {top ceiling : Nat} (a b : Nat) (fits : ceiling ≤ top) :
    min (saturatingMul top a b) ceiling = min (a * b) ceiling := by
  unfold saturatingMul
  omega

/-- `1 << exponent` in an unsigned type of the given width; `none` where it panics. -/
def shiftedOne (width exponent : Nat) : Option Nat :=
  if exponent < width then some (2 ^ exponent % 2 ^ width) else none

theorem shiftedOne_some {width exponent : Nat} (inside : exponent < width) :
    shiftedOne width exponent = some (2 ^ exponent) := by
  have fits : 2 ^ exponent < 2 ^ width := Nat.pow_lt_pow_right (by decide) inside
  rw [shiftedOne, if_pos inside, Nat.mod_eq_of_lt fits]

/-- `u64::try_from` of a wider value. -/
def u64TryFrom (n : Nat) : Option Nat := if n ≤ u64Max then some n else none

/-- A `Duration`: at most `u64::MAX` seconds and 999 999 999 nanoseconds. -/
structure Duration where
  nanos : Nat
  fits : nanos ≤ u64Max * 1000000000 + 999999999
  deriving DecidableEq

namespace Duration

def isZero (d : Duration) : Bool := d.nanos == 0
def asSecs (d : Duration) : Nat := d.nanos / 1000000000
def asMillis (d : Duration) : Nat := d.nanos / 1000000

def max : Duration := ⟨u64Max * 1000000000 + 999999999, Nat.le_refl _⟩

def fromSecs (secs : UInt64) : Duration where
  nanos := secs.toNat * 1000000000
  fits := by
    have small := secs.toNat_lt
    unfold u64Max
    omega

def fromMillis (millis : Nat) (small : millis ≤ u64Max) : Duration where
  nanos := millis * 1000000
  fits := by
    unfold u64Max at *
    omega

def ofMillis (millis : UInt64) : Duration :=
  fromMillis millis.toNat (Nat.le_of_lt_succ millis.toNat_lt)

def saturatingMul (d : Duration) (factor : Nat) : Duration :=
  ⟨Machine.saturatingMul max.nanos d.nanos factor, Nat.min_le_right _ _⟩

def least (d e : Duration) : Duration := if d.nanos ≤ e.nanos then d else e

theorem least_nanos (d e : Duration) : (d.least e).nanos = min d.nanos e.nanos := by
  unfold least
  split <;> omega

theorem isZero_iff (d : Duration) : d.isZero = true ↔ d.nanos = 0 := by
  rw [isZero, beq_iff_eq]

end Duration

structure I64 where
  val : Int
  lower : -2 ^ 63 ≤ val
  upper : val < 2 ^ 63
  deriving DecidableEq

namespace I64

/-- The value when the type can hold it; `try_from` and the checked operations. -/
def ofInt? (x : Int) : Option I64 :=
  if fits : -2 ^ 63 ≤ x ∧ x < 2 ^ 63 then some ⟨x, fits.1, fits.2⟩ else none

def checkedAdd (a b : I64) : Option I64 := ofInt? (a.val + b.val)
def checkedSub (a b : I64) : Option I64 := ofInt? (a.val - b.val)

def clamp (x : Int) : I64 := ⟨max (-2 ^ 63) (min x (2 ^ 63 - 1)), by omega, by omega⟩

def saturatingAdd (a b : I64) : I64 := clamp (a.val + b.val)
def saturatingSub (a b : I64) : I64 := clamp (a.val - b.val)

def toU64? (a : I64) : Option Nat := if 0 ≤ a.val then some a.val.toNat else none

end I64

/-- A `SystemTime`, in nanoseconds from the Unix epoch, before it or after. -/
structure SystemTime where
  nanos : Int
  deriving DecidableEq

universe u

theorem bind_ok {ε α β : Type u} {x : Except ε α} {f : α → Except ε β} {b : β}
    (succeeds : (x >>= f) = .ok b) : ∃ a, x = .ok a ∧ f a = .ok b := by
  cases x with
  | error e => cases succeeds
  | ok a => exact ⟨a, rfl, succeeds⟩

@[simp] theorem ok_bind {ε α β : Type u} (a : α) (f : α → Except ε β) :
    (Except.ok a >>= f) = f a := rfl

@[simp] theorem error_bind {ε α β : Type u} (e : ε) (f : α → Except ε β) :
    (Except.error e >>= f) = .error e := rfl

@[simp] theorem ok_mapError {ε δ α : Type u} (a : α) (f : ε → δ) :
    (Except.ok a).mapError f = .ok a := rfl

theorem mapError_ok {ε δ α : Type u} {x : Except ε α} {f : ε → δ} {a : α}
    (succeeds : x.mapError f = .ok a) : x = .ok a := by
  cases x with
  | error e => cases succeeds
  | ok b => cases succeeds; rfl

/-- A fallible method on a mutable value: what an error finds changed stays changed. -/
abbrev Mutating (σ ε α : Type) := ExceptT ε (StateM σ) α

/-- The `?` of a result that was computed without touching the value. -/
def attempt {σ ε α : Type} (x : Except ε α) : Mutating σ ε α := ExceptT.mk (pure x)

@[simp] theorem attempt_ok_bind {σ ε α β : Type} (a : α) (f : α → Mutating σ ε β) :
    (attempt (.ok a) >>= f) = f a := by
  unfold attempt
  rfl

@[simp] theorem attempt_error_bind {σ ε α β : Type} (e : ε) (f : α → Mutating σ ε β) (s : σ) :
    (attempt (.error e) >>= f).run.run s = (.error e, s) := by
  unfold attempt
  rfl

theorem bind_run_ok {σ ε α β : Type} {x : Mutating σ ε α} {a : α} {s s' : σ}
    (succeeds : x.run.run s = (.ok a, s')) (f : α → Mutating σ ε β) :
    (x >>= f).run.run s = (f a).run.run s' := by
  change StateT.run (x.run >>= ExceptT.bindCont f) s = _
  rw [StateT.run_bind, succeeds]
  rfl

@[simp] theorem get_bind {σ ε β : Type} (f : σ → Mutating σ ε β) (s : σ) :
    ((get : Mutating σ ε σ) >>= f).run.run s = (f s).run.run s :=
  bind_run_ok rfl f

end Machine
