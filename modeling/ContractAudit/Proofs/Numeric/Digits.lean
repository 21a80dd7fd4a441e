import ContractAudit.Numeric.Layout
import ContractAudit.Numeric.Reading
import Mathlib.Data.List.Induction
import Mathlib.Data.Nat.Digits.Defs

/-!
# Decimal digits

The digits that are written for a natural number: there is at least one, the first is zero only for zero itself, and
their value is the number. A run of digits, also one with zeros in front, is read as the number that it denotes
(`Numeral.readNat?_eq`).
-/

namespace ContractAudit.Numeric

/-! ## Digits that are written -/

theorem isDigit_iff {c : Char} : c.isDigit = true ↔ 48 ≤ c.toNat ∧ c.toNat ≤ 57 := by
  simp [Char.isDigit, UInt32.le_iff_toNat_le, ← Char.toNat_val]

theorem isDigit_eq (c : Char) : isDigit c = c.isDigit := by
  rw [Bool.eq_iff_iff, isDigit_iff]
  simp [isDigit, Char.le_def, UInt32.le_iff_toNat_le, ← Char.toNat_val]

theorem isDigit_of_mem_digitChars {n : Nat} {c : Char} (h : c ∈ digitChars n) : isDigit c = true := by
  rw [isDigit_eq]
  exact Nat.isDigit_of_mem_toDigits (by decide) (by decide) h

theorem digitChars_ne_nil (n : Nat) : digitChars n ≠ [] := Nat.toDigits_ne_nil

theorem head?_digitChars {n : Nat} (h : n ≠ 0) : (digitChars n).head? ≠ some '0' := by
  induction n using Nat.strongRecOn with
  | ind n ih =>
    unfold digitChars at ih ⊢
    by_cases hn : n < 10
    · simp [Nat.toDigits_of_lt_base hn, Nat.digitChar_eq_zero, h]
    · have hfirst := ih (n / 10) (by omega) (by omega)
      rw [Nat.toDigits_of_base_le (by decide) (by omega), List.head?_append]
      cases hhead : (Nat.toDigits 10 (n / 10)).head? with
      | none => exact absurd (List.head?_eq_none_iff.mp hhead) Nat.toDigits_ne_nil
      | some c => rwa [hhead] at hfirst

theorem digitsValue_digitChars (n : Nat) : digitsValue (digitChars n) = n :=
  Nat.ofDigitChars_eq_foldl.symm.trans Nat.ofDigitChars_ten_toDigits

/-! ## Digits that are read -/

theorem digitsValue_eq (cs : List Char) :
    digitsValue cs = Nat.ofDigits 10 (cs.reverse.map fun c => c.toNat - '0'.toNat) := by
  induction cs using List.reverseRecOn with
  | nil => rfl
  | append_singleton cs c ih =>
    have hfold : digitsValue (cs ++ [c]) = 10 * digitsValue cs + (c.toNat - '0'.toNat) := by
      simp [digitsValue, digitValue]
    rw [hfold, ih, List.reverse_append, List.reverse_singleton, List.singleton_append, List.map_cons, Nat.ofDigits_cons,
      Nat.add_comm]

theorem readNat?_unsigned {max : Nat} {cs : List Char} (h : ∀ rest, cs ≠ '+' :: rest) :
    readNat? max cs = (readDigits? cs).filter (· ≤ max) := by
  unfold readNat?
  split
  · next rest => exact absurd rfl (h rest)
  · rfl

/-- A number of 32 bits in decimal digits; zeros may stand in front. -/
structure Numeral (n : Nat) (cs : List Char) : Prop where
  ne_nil : cs ≠ []
  digits : ∀ c ∈ cs, c.isDigit = true
  value : Nat.ofDigits 10 (cs.reverse.map fun c => c.toNat - '0'.toNat) = n
  lt : n < 2 ^ 32

namespace Numeral

variable {n : Nat} {cs : List Char}

theorem ne_of_mem (h : Numeral n cs) {c d : Char} (hc : c ∈ cs) (hd : d.isDigit = false) : c ≠ d := by
  rintro rfl
  rw [h.digits c hc] at hd
  exact absurd hd (by simp)

theorem not_blank (h : Numeral n cs) {c : Char} (hc : c ∈ cs) : Text.isBlank c = false := by
  have hrange := isDigit_iff.mp (h.digits c hc)
  simp only [Text.isBlank, Bool.or_eq_false_iff, Bool.and_eq_false_iff, decide_eq_false_iff_not, beq_eq_false_iff_ne]
  omega

theorem readNat?_eq (h : Numeral n cs) : readNat? maxU32 cs = some n := by
  have hsign : ∀ rest, cs ≠ '+' :: rest := by
    rintro rest rfl
    exact h.ne_of_mem List.mem_cons_self (by decide) rfl
  have hdigits : cs.all isDigit = true := by
    rw [List.all_eq_true]
    exact fun c hc => (isDigit_eq c).trans (h.digits c hc)
  have hbound : n ≤ maxU32 := Nat.le_sub_one_of_lt h.lt
  rw [readNat?_unsigned hsign, readDigits?, hdigits, digitsValue_eq, h.value]
  simp [h.ne_nil, hbound]

end Numeral

end ContractAudit.Numeric
