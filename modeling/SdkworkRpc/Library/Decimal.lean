import SdkworkRpc.Library.Text
import Mathlib.Data.List.Induction

/-! Exactly which texts `parse` reads as an unsigned number. -/
namespace Text

theorem decimal_append (ds : List Char) (d : Char) :
    decimal (ds ++ [d]) = 10 * decimal ds + (d.toNat - '0'.toNat) :=
  List.foldl_append

theorem decimal_zeros (k : Nat) (ds : List Char) :
    decimal (List.replicate k '0' ++ ds) = decimal ds := by
  induction k with
  | zero => rfl
  | succ k ih => exact ih

theorem decimal_toDigits (n : Nat) : decimal (Nat.toDigits 10 n) = n := by
  exact Nat.ofDigitChars_toDigits (by decide) (by decide)

theorem digitChar_ofNat : ∀ n < 10, Nat.digitChar n = Char.ofNat (48 + n) := by decide

theorem digit_value {d : Char} (digit : d.isDigit = true) :
    d.toNat - '0'.toNat < 10 ∧ Nat.digitChar (d.toNat - '0'.toNat) = d := by
  have zero : '0'.toNat = 48 := rfl
  have range : 48 ≤ d.toNat ∧ d.toNat ≤ 57 := by
    simp only [Char.isDigit, Bool.and_eq_true, decide_eq_true_eq] at digit
    exact digit
  have small : d.toNat - '0'.toNat < 10 := by omega
  refine ⟨small, ?_⟩
  rw [digitChar_ofNat _ small]
  have whole : 48 + (d.toNat - '0'.toNat) = d.toNat := by omega
  rw [whole, Char.ofNat_toNat]

/-- Digits are leading zeros and the digits of the number they write. -/
theorem digits_canonical {digits : List Char} (given : digits ≠ [])
    (all : digits.all Char.isDigit = true) :
    ∃ k, digits = List.replicate k '0' ++ Nat.toDigits 10 (decimal digits) := by
  induction digits using List.reverseRecOn with
  | nil => exact absurd rfl given
  | append_singleton ds d ih =>
    rw [List.all_append, Bool.and_eq_true, List.all_cons, List.all_nil, Bool.and_true] at all
    obtain ⟨small, char⟩ := digit_value all.2
    have last : Nat.toDigits 10 (d.toNat - '0'.toNat) = [d] := by
      rw [Nat.toDigits_of_lt_base small, char]
    rw [decimal_append]
    by_cases empty : ds = []
    · refine ⟨0, ?_⟩
      rw [empty, decimal, List.foldl_nil, Nat.mul_zero, Nat.zero_add, last]
      rfl
    obtain ⟨k, canonical⟩ := ih empty all.1
    -- A leading part that writes 0 is zeros all through.
    rcases Nat.eq_zero_or_pos (decimal ds) with zero | positive
    · rw [zero, Nat.toDigits_zero] at canonical
      refine ⟨k + 1, ?_⟩
      rw [zero, Nat.mul_zero, Nat.zero_add, last, List.replicate_succ', ← canonical]
    · refine ⟨k, ?_⟩
      rw [← Nat.toDigits_append_toDigits (by decide) positive small, last, ← List.append_assoc,
        ← canonical]

theorem canonical_digits (k n : Nat) :
    (List.replicate k '0' ++ Nat.toDigits 10 n).all Char.isDigit = true := by
  rw [List.all_eq_true]
  intro c member
  rcases List.mem_append.mp member with zeros | own
  · rw [List.eq_of_mem_replicate zeros]
    rfl
  · exact Nat.isDigit_of_mem_toDigits (by decide) (by decide) own

theorem digits_iff {top n : Nat} {digits : List Char} :
    (if digits ≠ [] ∧ digits.all Char.isDigit = true ∧ decimal digits ≤ top then
      some (decimal digits) else none) = some n ↔
      n ≤ top ∧ ∃ k, digits = List.replicate k '0' ++ Nat.toDigits 10 n := by
  constructor
  · intro read
    split at read
    · rename_i checked
      cases Option.some.inj read
      exact ⟨checked.2.2, digits_canonical checked.1 checked.2.1⟩
    · cases read
  · rintro ⟨fits, k, rfl⟩
    rw [decimal_zeros, decimal_toDigits, if_pos]
    refine ⟨fun empty => ?_, canonical_digits k n, fits⟩
    exact Nat.toDigits_ne_nil (List.append_eq_nil_iff.mp empty).2

/-- What is read as `n`: at most one plus sign, then any number of zeros, then `n` in decimal. -/
theorem parseUnsigned_iff {top n : Nat} {s : String} :
    parseUnsigned top s = some n ↔ n ≤ top ∧ ∃ sign k, (sign = [] ∨ sign = ['+']) ∧
      s.toList = sign ++ (List.replicate k '0' ++ Nat.toDigits 10 n) := by
  simp only [parseUnsigned]
  rw [digits_iff]
  split
  · rename_i rest plus
    rw [plus]
    constructor
    · rintro ⟨fits, k, rfl⟩
      exact ⟨fits, ['+'], k, .inr rfl, rfl⟩
    · rintro ⟨fits, sign, k, rfl | rfl, same⟩
      · have digit := canonical_digits k n
        rw [← List.nil_append (_ ++ _), ← same] at digit
        cases digit
      · exact ⟨fits, k, (List.cons.inj same).2⟩
  · rename_i unsigned
    constructor
    · rintro ⟨fits, k, same⟩
      exact ⟨fits, [], k, .inl rfl, same⟩
    · rintro ⟨fits, sign, k, rfl | rfl, same⟩
      · exact ⟨fits, k, same⟩
      · exact absurd same (unsigned _)

end Text
