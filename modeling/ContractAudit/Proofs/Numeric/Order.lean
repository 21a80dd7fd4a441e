import ContractAudit.Numeric.Binary
import Mathlib.Algebra.Order.Field.Rat
import Mathlib.Algebra.Order.Field.Basic
import Mathlib.Tactic.Ring

/-!
# The order of floating-point numbers

A finite number stands for a rational number (`Binary.toRat?`), and finite numbers are ordered as these are
(`Binary.le_iff`).
-/

namespace ContractAudit.Numeric

theorem scale_den_pos {num den : Nat} (hden : 0 < den) (e : Int) : 0 < (scale num den e).2 := by
  unfold scale
  split
  · exact Nat.mul_pos hden (Nat.pow_pos (by decide))
  · exact hden

theorem scale_div (num den : Nat) (e : Int) :
    ((scale num den e).1 : ℚ) / (scale num den e).2 = num / den * 2 ^ (-e) := by
  unfold scale
  split
  · next he =>
    obtain ⟨n, rfl⟩ := Int.eq_ofNat_of_zero_le he
    simp [Nat.pow_eq, div_eq_mul_inv]
    ring
  · next he =>
    obtain ⟨n, hn⟩ := Int.eq_ofNat_of_zero_le (show 0 ≤ -e by omega)
    simp [hn, Nat.pow_eq, div_eq_mul_inv]
    ring

namespace Binary

/-- The value of a finite number. -/
def toRat? : Binary → Option ℚ
  | finite negative significand exponent => some ((if negative then -1 else 1) * significand * 2 ^ exponent)
  | _ => none

theorem ratio_den_pos (m : Nat) (e : Int) : 0 < (ratio m e).2 := scale_den_pos (by decide) _

theorem ratio_div (m : Nat) (e : Int) : ((ratio m e).1 : ℚ) / (ratio m e).2 = m * 2 ^ e := by
  have hscaled := scale_div m 1 (-e)
  simpa [ratio] using hscaled

theorem cast_signed (negative : Bool) (n : Nat) : ((signed negative n : Int) : ℚ) = (if negative then -1 else 1) * n := by
  cases negative <;> simp [signed]

theorem isFinite_iff {x : Binary} : x.isFinite = true ↔ ∃ q, x.toRat? = some q := by
  cases x <;> simp [isFinite, toRat?]

theorem le_iff {x y : Binary} {p q : ℚ} (hx : x.toRat? = some p) (hy : y.toRat? = some q) :
    x.le y = true ↔ p ≤ q := by
  cases x with
  | nan => cases hx
  | infinite => cases hx
  | finite s m e =>
    cases y with
    | nan => cases hy
    | infinite => cases hy
    | finite t n g =>
      obtain rfl := Option.some.inj hx
      obtain rfl := Option.some.inj hy
      have hle : (finite s m e).le (finite t n g) =
          decide (signed s ((ratio m e).1 * (ratio n g).2) ≤ signed t ((ratio n g).1 * (ratio m e).2)) := rfl
      have hb : (0 : ℚ) < (ratio m e).2 := by exact_mod_cast ratio_den_pos m e
      have hd : (0 : ℚ) < (ratio n g).2 := by exact_mod_cast ratio_den_pos n g
      rw [hle, decide_eq_true_eq, mul_assoc, mul_assoc, ← ratio_div m e, ← ratio_div n g, ← mul_div_assoc,
        ← mul_div_assoc, div_le_div_iff₀ hb hd, ← Int.cast_le (R := ℚ), cast_signed, cast_signed]
      push_cast
      rw [mul_assoc, mul_assoc]

end Binary

end ContractAudit.Numeric
