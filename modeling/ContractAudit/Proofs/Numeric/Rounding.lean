import ContractAudit.Proofs.Numeric.Order
import Mathlib.Tactic.Linarith

/-!
# Rounding between whole numbers

Rounding never leaves an interval whose ends are whole numbers, as long as the format has the upper end exactly
(`Format.round_between`). The same holds of products (`Format.mul_between`) and of the nearest whole number
(`Binary.nearest_between`).
-/

namespace ContractAudit.Numeric

/-! ## Quotients -/

theorem le_roundDiv {num den low : Nat} (hden : 0 < den) (h : low * den ≤ num) : low ≤ roundDiv num den := by
  have hquotient : low ≤ num / den := (Nat.le_div_iff_mul_le hden).mpr h
  unfold roundDiv
  dsimp only
  split <;> omega

theorem roundDiv_le {num den high : Nat} (hden : 0 < den) (h : num ≤ high * den) : roundDiv num den ≤ high := by
  have hquotient : num / den ≤ high := Nat.div_le_of_le_mul (by rwa [Nat.mul_comm])
  unfold roundDiv
  dsimp only
  by_cases htop : num / den = high
  · -- at the upper end nothing is left to round
    have hsplit := Nat.div_add_mod num den
    have hrest : num % den = 0 := by
      rw [htop, Nat.mul_comm] at hsplit
      omega
    rw [hrest, htop, if_neg]
    simp only [Nat.mul_zero, Bool.or_eq_true, decide_eq_true_eq, Bool.and_eq_true, beq_iff_eq]
    omega
  · split <;> omega

theorem roundDivUp_between {num den low high : Nat} (hden : 0 < den) (hlow : low * den ≤ num) (hhigh : num ≤ high * den) :
    low ≤ roundDivUp num den ∧ roundDivUp num den ≤ high := by
  unfold roundDivUp
  constructor
  · have hdouble : low * (2 * den) = 2 * (low * den) := by ring
    rw [Nat.le_div_iff_mul_le (by omega)]
    omega
  · have hdouble : (high + 1) * (2 * den) = 2 * (high * den) + 2 * den := by ring
    rw [← Nat.lt_add_one_iff, Nat.div_lt_iff_lt_mul (by omega)]
    omega

theorem Binary.nearest_between {m : Nat} {e : Int} {low high : Nat} (hlow : (low : ℚ) ≤ m * 2 ^ e)
    (hhigh : (m : ℚ) * 2 ^ e ≤ high) : low ≤ Binary.nearest m e ∧ Binary.nearest m e ≤ high := by
  have hden := Binary.ratio_den_pos m e
  have hden' : (0 : ℚ) < (Binary.ratio m e).2 := by exact_mod_cast hden
  rw [← Binary.ratio_div] at hlow hhigh
  rw [le_div_iff₀ hden'] at hlow
  rw [div_le_iff₀ hden'] at hhigh
  exact roundDivUp_between hden (by exact_mod_cast hlow) (by exact_mod_cast hhigh)

/-! ## Formats -/

theorem floorLog2_le {num den high : Nat} (hnum : num ≠ 0) (h : num ≤ high * den) :
    floorLog2 num den ≤ Nat.log2 high + 1 := by
  have hhigh : high < 2 ^ (Nat.log2 high + 1) := Nat.lt_log2_self
  have hden : den < 2 ^ (Nat.log2 den + 1) := Nat.lt_log2_self
  have hproduct : num < 2 ^ (Nat.log2 high + 1 + (Nat.log2 den + 1)) := by
    rw [Nat.pow_add]
    exact lt_of_le_of_lt h (Nat.mul_lt_mul'' hhigh hden)
  have hlog : Nat.log2 num < Nat.log2 high + 1 + (Nat.log2 den + 1) := (Nat.log2_lt hnum).mpr hproduct
  unfold floorLog2
  dsimp only
  split <;> omega

theorem scale_of_nonpos (num den : Nat) {e : Int} (he : e ≤ 0) : scale num den e = (num * 2 ^ (-e).toNat, den) := by
  unfold scale
  split
  · obtain rfl : e = 0 := by omega
    simp
  · rfl

/-- Rounding yields an infinity, at the upper end of the format, or the rounded significand at its power of two. A
significand that takes one bit too many is halved, and the next power of two makes up for it. -/
theorem Format.round_cases {f : Format} (hprecision : 0 < f.precision) (negative : Bool) {num den : Nat} (hnum : num ≠ 0)
    {e : Int} (he : e = max f.minExponent (floorLog2 num den - ((f.precision : Int) - 1))) :
    (f.round negative num den = .infinite negative ∧ f.maxExponent ≤ e) ∨
    ∃ m' e', f.round negative num den = .finite negative m' e' ∧
      (m' : ℚ) * 2 ^ e' = (roundDiv (scale num den e).1 (scale num den e).2 : ℚ) * 2 ^ e := by
  have hround : f.round negative num den =
      (if (roundDiv (scale num den e).1 (scale num den e).2 == Nat.pow 2 f.precision) = true then
        (if f.maxExponent < e + 1 then .infinite negative else .finite negative (Nat.pow 2 (f.precision - 1)) (e + 1))
      else if f.maxExponent < e then .infinite negative
      else .finite negative (roundDiv (scale num den e).1 (scale num den e).2) e) := by
    rw [Format.round, if_neg (by simpa using hnum), ← he]
    dsimp only
    split <;> rfl
  generalize roundDiv (scale num den e).1 (scale num den e).2 = m at hround ⊢
  rw [hround]
  by_cases hcarry : m = 2 ^ f.precision
  · rw [if_pos (by simpa using hcarry)]
    split
    · next hover => exact .inl ⟨rfl, by omega⟩
    · refine .inr ⟨_, _, rfl, ?_⟩
      obtain ⟨p, hp⟩ := Nat.exists_eq_add_one.mpr hprecision
      rw [hcarry, hp, Nat.add_sub_cancel, zpow_add₀ (two_ne_zero), Nat.pow_eq]
      push_cast
      ring
  · rw [if_neg (by simpa using hcarry)]
    split
    · next hover => exact .inl ⟨rfl, hover.le⟩
    · exact .inr ⟨_, _, rfl, rfl⟩

theorem Format.round_value {f : Format} (hprecision : 0 < f.precision) (negative : Bool) {num den : Nat} (hnum : num ≠ 0)
    {e : Int} (he : e = max f.minExponent (floorLog2 num den - ((f.precision : Int) - 1))) (hmax : e < f.maxExponent) :
    ∃ m' e', f.round negative num den = .finite negative m' e' ∧
      (m' : ℚ) * 2 ^ e' = (roundDiv (scale num den e).1 (scale num den e).2 : ℚ) * 2 ^ e := by
  rcases f.round_cases hprecision negative hnum he with ⟨-, hover⟩ | hfinite
  · omega
  · exact hfinite

/-- **Rounding stays between whole numbers.** -/
theorem Format.round_between {f : Format} (hmin : f.minExponent ≤ 0) (hmax : 0 < f.maxExponent) (negative : Bool)
    {num den low high : Nat} (hden : 0 < den) (hlow : low * den ≤ num) (hhigh : num ≤ high * den)
    (hprecision : Nat.log2 high + 2 ≤ f.precision) :
    ∃ m e, f.round negative num den = .finite negative m e ∧ (low : ℚ) ≤ m * 2 ^ e ∧ (m : ℚ) * 2 ^ e ≤ high := by
  by_cases hnum : num = 0
  · subst hnum
    obtain rfl : low = 0 := by
      by_contra hne
      have := Nat.mul_pos (Nat.pos_of_ne_zero hne) hden
      omega
    exact ⟨0, f.minExponent, rfl, by simp, by simp⟩
  · have hlog := floorLog2_le hnum hhigh
    obtain ⟨k, hk⟩ : ∃ k : Nat, -(k : Int) = max f.minExponent (floorLog2 num den - ((f.precision : Int) - 1)) :=
      ⟨(-(max f.minExponent (floorLog2 num den - ((f.precision : Int) - 1)))).toNat, by omega⟩
    obtain ⟨m, e, hround, hvalue⟩ := f.round_value (by omega) negative hnum hk (by omega)
    refine ⟨m, e, hround, ?_⟩
    have hpow : (0 : ℚ) < 2 ^ k := pow_pos two_pos k
    rw [hvalue, scale_of_nonpos num den (by omega), neg_neg, Int.toNat_natCast, zpow_neg, zpow_natCast,
      ← div_eq_mul_inv, le_div_iff₀ hpow, div_le_iff₀ hpow]
    constructor
    · have hscaled : low * 2 ^ k * den ≤ num * 2 ^ k := by
        rw [Nat.mul_right_comm]
        exact Nat.mul_le_mul_right _ hlow
      exact_mod_cast le_roundDiv hden hscaled
    · have hscaled : num * 2 ^ k ≤ high * 2 ^ k * den := by
        rw [Nat.mul_right_comm]
        exact Nat.mul_le_mul_right _ hhigh
      exact_mod_cast roundDiv_le hden hscaled

namespace Binary

theorem magnitude_eq {negative : Bool} {m : Nat} {e : Int} {q : ℚ} (h : (finite negative m e).toRat? = some q)
    (hq : 0 ≤ q) : (m : ℚ) * 2 ^ e = q := by
  obtain rfl := Option.some.inj h
  cases negative with
  | false => simp
  | true =>
    have hmagnitude : (0 : ℚ) ≤ m * 2 ^ e := mul_nonneg (Nat.cast_nonneg m) (zpow_nonneg two_pos.le e)
    simp only [if_true, neg_mul] at hq ⊢
    linarith

theorem eq_zero_of_negative {m : Nat} {e : Int} {q : ℚ} (h : (finite true m e).toRat? = some q) (hq : 0 ≤ q) :
    q = 0 := by
  have hmagnitude := magnitude_eq h hq
  obtain rfl := Option.some.inj h
  simp only [if_true] at hmagnitude ⊢
  linarith

theorem sign_of_pos {negative : Bool} {m : Nat} {e : Int} {q : ℚ} (h : (finite negative m e).toRat? = some q)
    (hq : 0 < q) : negative = false := by
  cases negative with
  | false => rfl
  | true => exact absurd (eq_zero_of_negative h hq.le) hq.ne'

end Binary

theorem Format.mul_between {f : Format} (hmin : f.minExponent ≤ 0) (hmax : 0 < f.maxExponent) {x y : Binary} {p q : ℚ}
    (hx : x.toRat? = some p) (hy : y.toRat? = some q) (hp : 0 < p) (hq : 0 < q) (low high : Nat)
    (hlow : (low : ℚ) ≤ p * q) (hhigh : p * q ≤ high) (hprecision : Nat.log2 high + 2 ≤ f.precision) :
    ∃ m e, f.mul x y = .finite false m e ∧ (low : ℚ) ≤ m * 2 ^ e ∧ (m : ℚ) * 2 ^ e ≤ high := by
  cases x with
  | nan => cases hx
  | infinite => cases hx
  | finite s m e =>
    cases y with
    | nan => cases hy
    | infinite => cases hy
    | finite t n g =>
      obtain rfl := Binary.sign_of_pos hx hp
      obtain rfl := Binary.sign_of_pos hy hq
      have hden := Binary.ratio_den_pos (m * n) (e + g)
      have hden' : (0 : ℚ) < (Binary.ratio (m * n) (e + g)).2 := by exact_mod_cast hden
      have hratio : ((Binary.ratio (m * n) (e + g)).1 : ℚ) / (Binary.ratio (m * n) (e + g)).2 = p * q := by
        rw [Binary.ratio_div, ← Binary.magnitude_eq hx hp.le, ← Binary.magnitude_eq hy hq.le, zpow_add₀ two_ne_zero]
        push_cast
        ring
      rw [← hratio, le_div_iff₀ hden'] at hlow
      rw [← hratio, div_le_iff₀ hden'] at hhigh
      exact f.round_between hmin hmax false hden (by exact_mod_cast hlow) (by exact_mod_cast hhigh) hprecision

end ContractAudit.Numeric
