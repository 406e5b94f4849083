/-!
# `Numeral.lean` — numbers that fit a word, and their digits

Counts and sizes are natural numbers here, and where a number has to fit a word of fixed width that
is said as a bound. The bounds are written out: they are two to the power of 32, 63 and 64.

Numerals are lists of characters. What a reader of decimal ones needs to know of the digits of a
number: they are the number again, they begin with a zero only if that is all (`toDigits_eq_cons`),
and while they are read one after another no number on the way is greater than the last one
(`le_ofDigitChars`), so that if this one fits a word they all do.
-/

set_option autoImplicit false

namespace ClusterKeeper

/-! ## 1. Words -/

/-- The least number that does not fit 64 bits. -/
abbrev wordLimit : Nat := 18446744073709551616

/-- The least number that does not fit 64 bits of which one is the sign. -/
abbrev signedLimit : Nat := 9223372036854775808

/-- The least number that does not fit 32 bits. -/
abbrev shortLimit : Nat := 4294967296

def word? (n : Nat) : Option Nat := if n < wordLimit then some n else none

theorem word?_eq_some_iff {n m : Nat} : word? n = some m ↔ n = m ∧ n < wordLimit := by
  unfold word?
  split
  · next h => simp [h]
  · next h => simp [h]

theorem word?_of_lt {n : Nat} (h : n < wordLimit) : word? n = some n :=
  word?_eq_some_iff.2 ⟨rfl, h⟩

theorem word?_eq_none_iff {n : Nat} : word? n = none ↔ wordLimit ≤ n := by
  unfold word?
  split
  · next h => exact iff_of_false (by simp) (Nat.not_le_of_lt h)
  · next h => exact iff_of_true rfl (Nat.le_of_not_lt h)

/-! ## 2. Digits -/

/-- The value of a digit in hexadecimal, of either case. -/
def hexValue? (c : Char) : Option Nat :=
  if c.isDigit then some (c.toNat - 48)
  else if 'a' ≤ c ∧ c ≤ 'f' then some (c.toNat - 87)
  else if 'A' ≤ c ∧ c ≤ 'F' then some (c.toNat - 55)
  else none

/-- The number that digits to a base, sixteen at most, write. -/
def digitsValue (base : Nat) (digits : List Char) : Nat :=
  digits.foldl (fun n c => n * base + (hexValue? c).getD 0) 0

theorem isDigit_toDigits {n : Nat} {c : Char} (hc : c ∈ Nat.toDigits 10 n) : c.isDigit = true :=
  Nat.isDigit_of_mem_toDigits (by decide) (by decide) hc

theorem toDigits_eq_cons {n : Nat} (hn : 0 < n) :
    ∃ c cs, Nat.toDigits 10 n = c :: cs ∧ c ≠ '0' := by
  induction n using Nat.strongRecOn with
  | ind n ih =>
    by_cases hshort : n < 10
    · refine ⟨_, [], Nat.toDigits_of_lt_base hshort, fun hzero => ?_⟩
      have hchar := Nat.toNat_digitChar_of_lt_ten hshort
      rw [hzero] at hchar
      have hcode : '0'.toNat = 48 := rfl
      omega
    · obtain ⟨c, cs, hdigits, hc⟩ := ih (n / 10) (by omega) (by omega)
      refine ⟨c, cs ++ [(n % 10).digitChar], ?_, hc⟩
      rw [Nat.toDigits_of_base_le (by decide) (Nat.le_of_not_lt hshort), hdigits, List.cons_append]

theorem le_ofDigitChars (cs : List Char) (n : Nat) : n ≤ Nat.ofDigitChars 10 cs n := by
  rw [Nat.ofDigitChars_eq_ofDigitChars_zero]
  exact Nat.le_add_right_of_le (Nat.le_mul_of_pos_left n (Nat.pow_pos (by decide)))

end ClusterKeeper
