import ContractAudit.Proofs.Numeric.Rounding
import Mathlib.Algebra.Order.Floor.Semifield
import Mathlib.Data.Rat.Floor
import Mathlib.Tactic.FieldSimp
import Mathlib.Tactic.Positivity

/-!
# Exact arithmetic

The sum, the product and the quotient of numbers that are not below zero are their exact results, rounded once
(`Format.Rounds`). If the format has the exact result, that is what comes out (`Rounds.exact`); otherwise it never falls
below a whole number that the exact result reaches, however large it is (`Rounds.reaches`).
-/

namespace ContractAudit.Numeric

/-! ## Quotients -/

theorem roundDiv_mul (n : Nat) {den : Nat} (hden : 0 < den) : roundDiv (n * den) den = n :=
  Nat.le_antisymm (roundDiv_le hden (Nat.le_refl _)) (le_roundDiv hden (Nat.le_refl _))

theorem roundDivUp_eq_floor (num : Nat) {den : Nat} (hden : 0 < den) :
    roundDivUp num den = ⌊(num : ℚ) / den + 1 / 2⌋₊ := by
  have hhalf : (num : ℚ) / den + 1 / 2 = ((2 * num + den : Nat) : ℚ) / (2 * den : Nat) := by
    have hne : (den : ℚ) ≠ 0 := by exact_mod_cast hden.ne'
    push_cast
    field_simp
  rw [hhalf, Nat.floor_div_eq_div, roundDivUp]

theorem Binary.nearest_eq_floor (m : Nat) (e : Int) : Binary.nearest m e = ⌊(m : ℚ) * 2 ^ e + 1 / 2⌋₊ := by
  rw [← Binary.ratio_div, ← roundDivUp_eq_floor _ (Binary.ratio_den_pos m e)]
  rfl

theorem pow_floorLog2_le {num den : Nat} (hnum : num ≠ 0) (hden : 0 < den) :
    (2 : ℚ) ^ floorLog2 num den ≤ num / den := by
  have hden' : (0 : ℚ) < den := by exact_mod_cast hden
  unfold floorLog2
  dsimp only
  generalize hguess : (Nat.log2 num : Int) - (Nat.log2 den : Int) = guess
  split
  · next hle =>
    have hscaled := scale_div num den guess
    have hpos : (0 : ℚ) < (scale num den guess).2 := by exact_mod_cast scale_den_pos hden guess
    have hone : (1 : ℚ) ≤ num / den * 2 ^ (-guess) := by
      rw [← hscaled, le_div_iff₀ hpos, one_mul]
      exact_mod_cast hle
    rwa [zpow_neg, ← div_eq_mul_inv, le_div_iff₀ (zpow_pos two_pos guess), one_mul] at hone
  · -- one bit less is enough for any two numbers with these leading bits
    have hpos : (0 : ℚ) ≤ 2 ^ (guess - 1) := (zpow_pos two_pos _).le
    have hlow : (2 : ℚ) ^ Nat.log2 num ≤ num := by exact_mod_cast Nat.log2_self_le hnum
    have hhigh : (den : ℚ) ≤ 2 ^ (Nat.log2 den + 1) := by exact_mod_cast Nat.lt_log2_self.le
    rw [le_div_iff₀ hden']
    calc (2 : ℚ) ^ (guess - 1) * den ≤ 2 ^ (guess - 1) * 2 ^ (Nat.log2 den + 1) := by gcongr
      _ = 2 ^ Nat.log2 num := by
        rw [← zpow_natCast, ← zpow_natCast, ← zpow_add₀ two_ne_zero]
        congr 1
        push_cast
        omega
      _ ≤ num := hlow

/-! ## Rounded numbers -/

/-- `x` is what the format makes of the number `r`, which is not below zero. -/
def Format.Rounds (f : Format) (r : ℚ) (x : Binary) : Prop :=
  ∃ negative num den, 0 < den ∧ x = f.round negative num den ∧ (num : ℚ) / den = r ∧ (negative = true → r = 0)

/-- The number is infinite, or at least `low`. -/
def Binary.Reaches (low : ℚ) (x : Binary) : Prop := x = .infinite false ∨ ∃ q, x.toRat? = some q ∧ low ≤ q

namespace Format.Rounds

variable {f : Format} {r : ℚ} {x : Binary}

/-- **A number that the format has is not changed.** -/
theorem exact (h : f.Rounds r x) (k n high : Nat) (hr : r * 2 ^ k = n) (hhigh : r ≤ high) (hmin : f.minExponent ≤ -k)
    (hmax : 0 < f.maxExponent) (hprecision : Nat.log2 high + 2 + k ≤ f.precision) : x.toRat? = some r := by
  obtain ⟨negative, num, den, hden, rfl, hratio, hnegative⟩ := h
  have hden' : (den : ℚ) ≠ 0 := by exact_mod_cast hden.ne'
  have hsigned : ∀ {m : Nat} {e : Int}, (m : ℚ) * 2 ^ e = r → (Binary.finite negative m e).toRat? = some r := by
    intro m e hvalue
    rw [Binary.toRat?, mul_assoc, hvalue]
    cases negative with
    | false => simp
    | true => simp [hnegative rfl]
  by_cases hnum : num = 0
  · subst hnum
    exact hsigned (by simpa using hratio)
  · have hbound : num ≤ high * den := by
      rw [← hratio, div_le_iff₀ (by exact_mod_cast hden)] at hhigh
      exact_mod_cast hhigh
    have hlog := floorLog2_le hnum hbound
    obtain ⟨j, hj⟩ : ∃ j : Nat, -(j : Int) = max f.minExponent (floorLog2 num den - ((f.precision : Int) - 1)) :=
      ⟨(-(max f.minExponent (floorLog2 num den - ((f.precision : Int) - 1)))).toNat, by omega⟩
    obtain ⟨i, rfl⟩ : ∃ i, j = k + i := ⟨j - k, by omega⟩
    obtain ⟨m, e, hround, hvalue⟩ := f.round_value (by omega) negative hnum hj (by omega)
    -- the significand is a whole number before it is rounded
    have hwhole : num * 2 ^ (k + i) = n * 2 ^ i * den := by
      rw [← hratio, div_mul_eq_mul_div, div_eq_iff hden'] at hr
      have hr' : num * 2 ^ k = n * den := by exact_mod_cast hr
      rw [pow_add, ← Nat.mul_assoc, hr']
      ring
    rw [hround]
    refine hsigned ?_
    rw [hvalue, scale_of_nonpos num den (by omega), neg_neg, Int.toNat_natCast]
    dsimp only
    rw [hwhole, roundDiv_mul _ hden, zpow_neg, zpow_natCast, eq_comm, ← div_eq_mul_inv, eq_div_iff (by positivity),
      pow_add, ← mul_assoc, hr]
    push_cast
    ring

/-- **A whole number that is reached before rounding is reached afterwards.** -/
theorem reaches (h : f.Rounds r x) (low : Nat) (hpos : 0 < low) (hlow : (low : ℚ) ≤ r) (hmin : f.minExponent ≤ 0)
    (hprecision : low ≤ 2 ^ (f.precision - 1)) (hbits : 0 < f.precision) : x.Reaches low := by
  obtain ⟨negative, num, den, hden, rfl, rfl, hnegative⟩ := h
  have hpos' : (0 : ℚ) < low := by exact_mod_cast hpos
  have hden' : (0 : ℚ) < den := by exact_mod_cast hden
  obtain rfl : negative = false := by
    cases negative with
    | false => rfl
    | true => linarith [hnegative rfl]
  have hnum : num ≠ 0 := by
    rintro rfl
    simp at hlow
    omega
  obtain ⟨e, he⟩ : ∃ e, e = max f.minExponent (floorLog2 num den - ((f.precision : Int) - 1)) := ⟨_, rfl⟩
  rcases f.round_cases hbits false hnum he with ⟨hround, -⟩ | ⟨m, e', hround, hvalue⟩
  · exact .inl hround
  · refine .inr ⟨m * 2 ^ e', by rw [hround, Binary.toRat?]; simp, ?_⟩
    rw [hvalue]
    by_cases hsmall : e ≤ 0
    · -- the significand counts parts of one, so `low` is among the numbers that it can be rounded to
      obtain ⟨j, rfl⟩ : ∃ j : Nat, e = -(j : Int) := ⟨(-e).toNat, by omega⟩
      have hscaled : low * 2 ^ j * den ≤ num * 2 ^ j := by
        rw [le_div_iff₀ hden'] at hlow
        have hlow' : low * den ≤ num := by exact_mod_cast hlow
        rw [Nat.mul_right_comm]
        exact Nat.mul_le_mul_right _ hlow'
      have hrounded : ((low * 2 ^ j : Nat) : ℚ) ≤ roundDiv (num * 2 ^ j) den := by
        exact_mod_cast le_roundDiv hden hscaled
      rw [scale_of_nonpos num den hsmall, neg_neg, Int.toNat_natCast, zpow_neg, zpow_natCast, ← div_eq_mul_inv,
        le_div_iff₀ (by positivity)]
      exact_mod_cast hrounded
    · -- the significand has its full number of bits, which alone is enough
      have hleading : (2 : ℚ) ^ (e + ((f.precision : Int) - 1)) ≤ num / den := by
        have hlog : floorLog2 num den = e + ((f.precision : Int) - 1) := by omega
        exact hlog ▸ pow_floorLog2_le hnum hden
      have hscale : (0 : ℚ) < (scale num den e).2 := by exact_mod_cast scale_den_pos hden e
      have hquotient : ((2 ^ (f.precision - 1) : Nat) : ℚ) ≤ (scale num den e).1 / (scale num den e).2 := by
        rw [scale_div, zpow_neg, ← div_eq_mul_inv, le_div_iff₀ (zpow_pos two_pos e)]
        refine le_trans (le_of_eq ?_) hleading
        push_cast
        rw [← zpow_natCast, ← zpow_add₀ two_ne_zero]
        congr 1
        omega
      rw [le_div_iff₀ hscale] at hquotient
      have hbitsKept : 2 ^ (f.precision - 1) ≤ roundDiv (scale num den e).1 (scale num den e).2 :=
        le_roundDiv (scale_den_pos hden e) (by exact_mod_cast hquotient)
      have hlow' : (low : ℚ) ≤ roundDiv (scale num den e).1 (scale num den e).2 := by
        exact_mod_cast hprecision.trans hbitsKept
      have hone : (1 : ℚ) ≤ 2 ^ e := one_le_zpow₀ one_le_two (by omega)
      calc (low : ℚ) ≤ roundDiv (scale num den e).1 (scale num den e).2 := hlow'
        _ ≤ roundDiv (scale num den e).1 (scale num den e).2 * 2 ^ e := le_mul_of_one_le_right (Nat.cast_nonneg _) hone

end Format.Rounds

/-! ## Operations -/

section operations

variable {f : Format} {x y : Binary} {p q : ℚ}

theorem Binary.exists_finite (hx : x.toRat? = some p) : ∃ s m e, x = .finite s m e := by
  cases x with
  | finite s m e => exact ⟨s, m, e, rfl⟩
  | _ => cases hx

theorem Binary.zero_or_zero {s t : Bool} {m n : Nat} {e g : Int} (hx : (Binary.finite s m e).toRat? = some p)
    (hy : (Binary.finite t n g).toRat? = some q) (hp : 0 ≤ p) (hq : 0 ≤ q) (hsign : (s != t) = true) :
    p = 0 ∨ q = 0 := by
  cases s with
  | true => exact .inl (Binary.eq_zero_of_negative hx hp)
  | false =>
    cases t with
    | true => exact .inr (Binary.eq_zero_of_negative hy hq)
    | false => cases hsign

theorem Format.rounds_ofNat (f : Format) (n : Nat) : f.Rounds n (f.ofNat n) :=
  ⟨false, n, 1, by decide, rfl, by simp, by simp⟩

theorem Format.rounds_add (hx : x.toRat? = some p) (hy : y.toRat? = some q) (hp : 0 ≤ p) (hq : 0 ≤ q) :
    f.Rounds (p + q) (f.add x y) := by
  obtain ⟨s, m, e, rfl⟩ := Binary.exists_finite hx
  obtain ⟨t, n, g, rfl⟩ := Binary.exists_finite hy
  have hb : (0 : ℚ) < (Binary.ratio m e).2 := by exact_mod_cast Binary.ratio_den_pos m e
  have hd : (0 : ℚ) < (Binary.ratio n g).2 := by exact_mod_cast Binary.ratio_den_pos n g
  obtain ⟨sum, hdef⟩ : ∃ sum, sum = Binary.signed s ((Binary.ratio m e).1 * (Binary.ratio n g).2) +
      Binary.signed t ((Binary.ratio n g).1 * (Binary.ratio m e).2) := ⟨_, rfl⟩
  have hsum : (sum : ℚ) = (p + q) * ((Binary.ratio m e).2 * (Binary.ratio n g).2) := by
    have ha := Binary.ratio_div m e
    have hc := Binary.ratio_div n g
    rw [div_eq_iff hb.ne'] at ha
    rw [div_eq_iff hd.ne'] at hc
    obtain rfl := Option.some.inj hx
    obtain rfl := Option.some.inj hy
    rw [hdef]
    push_cast
    rw [Binary.cast_signed, Binary.cast_signed]
    push_cast
    rw [ha, hc]
    ring
  have hnonneg : 0 ≤ sum := by
    have hcast : (0 : ℚ) ≤ sum := hsum ▸ by positivity
    exact_mod_cast hcast
  have hresult : f.add (.finite s m e) (.finite t n g) = f.round (if sum = 0 then s && t else sum < 0) sum.natAbs
      ((Binary.ratio m e).2 * (Binary.ratio n g).2) := by
    rw [hdef]
    rfl
  refine ⟨_, _, _, Nat.mul_pos (Binary.ratio_den_pos m e) (Binary.ratio_den_pos n g), hresult, ?_, fun hsign => ?_⟩
  · rw [Nat.cast_natAbs, abs_of_nonneg hnonneg, hsum]
    push_cast
    field_simp
  · split at hsign
    · next hzero =>
      rw [hzero, Int.cast_zero, eq_comm, mul_eq_zero] at hsum
      exact hsum.resolve_right (by positivity)
    · simp only [decide_eq_true_eq] at hsign
      omega

theorem Format.rounds_mul (hx : x.toRat? = some p) (hy : y.toRat? = some q) (hp : 0 ≤ p) (hq : 0 ≤ q) :
    f.Rounds (p * q) (f.mul x y) := by
  obtain ⟨s, m, e, rfl⟩ := Binary.exists_finite hx
  obtain ⟨t, n, g, rfl⟩ := Binary.exists_finite hy
  refine ⟨s != t, (Binary.ratio (m * n) (e + g)).1, _, Binary.ratio_den_pos (m * n) (e + g), rfl, ?_, fun hsign => ?_⟩
  · rw [Binary.ratio_div, ← Binary.magnitude_eq hx hp, ← Binary.magnitude_eq hy hq, zpow_add₀ two_ne_zero]
    push_cast
    ring
  · exact mul_eq_zero.mpr (Binary.zero_or_zero hx hy hp hq hsign)

theorem Format.rounds_div (hx : x.toRat? = some p) (hy : y.toRat? = some q) (hp : 0 ≤ p) (hq : 0 < q) :
    f.Rounds (p / q) (f.div x y) := by
  obtain ⟨s, m, e, rfl⟩ := Binary.exists_finite hx
  obtain ⟨t, n, g, rfl⟩ := Binary.exists_finite hy
  have hmagnitude := Binary.magnitude_eq hy hq.le
  have hn : n ≠ 0 := by
    rintro rfl
    simp at hmagnitude
    linarith
  have hb : (0 : ℚ) < (Binary.ratio m e).2 := by exact_mod_cast Binary.ratio_den_pos m e
  have hd : (0 : ℚ) < (Binary.ratio n g).2 := by exact_mod_cast Binary.ratio_den_pos n g
  have hnum : (0 : ℚ) < (Binary.ratio n g).1 := by
    have hratio := Binary.ratio_div n g
    rw [hmagnitude, div_eq_iff hd.ne'] at hratio
    rw [hratio]
    positivity
  have hresult : f.div (.finite s m e) (.finite t n g) = f.round (s != t)
      ((Binary.ratio m e).1 * (Binary.ratio n g).2) ((Binary.ratio m e).2 * (Binary.ratio n g).1) := by
    simp only [Format.div, beq_iff_eq, hn, if_false]
  refine ⟨_, _, _, ?_, hresult, ?_, fun hsign => ?_⟩
  · exact Nat.mul_pos (Binary.ratio_den_pos m e) (by exact_mod_cast hnum)
  · rw [← Binary.magnitude_eq hx hp, ← hmagnitude, ← Binary.ratio_div, ← Binary.ratio_div]
    push_cast
    field_simp
  · rcases Binary.zero_or_zero hx hy hp hq.le hsign with hzero | hzero
    · rw [hzero, zero_div]
    · exact absurd hzero hq.ne'

end operations

end ContractAudit.Numeric
