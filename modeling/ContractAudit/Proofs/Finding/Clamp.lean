import ContractAudit.Proofs.Finding.Risk

/-!
# Scores are tenths from one to ten

Whatever a score is made of, it is a whole number of tenths from 1 to 10 (`IsScore`): the score of some findings, the
neutral one, and one from outside that is brought into range. A score that is in range stays as it is
(`clamp_of_isScore`).
-/

namespace ContractAudit.Risk

open Numeric (Binary binary64)

/-- A whole number of tenths from 1 to 10, as a floating-point number. -/
def IsScore (x : Binary) : Prop := ∃ n, 10 ≤ n ∧ n ≤ 100 ∧ x = ofTenths n

theorem toRat?_one : (ofTenths 10).toRat? = some 1 := by
  have hone : ofTenths 10 = binary64.ofNat 1 := by decide
  rw [hone, toRat?_ofNat (by decide), Nat.cast_one]

theorem toRat?_ten : (ofTenths 100).toRat? = some 10 := by
  have hten : ofTenths 100 = binary64.ofNat 10 := by decide
  rw [hten, toRat?_ofNat (by decide), Nat.cast_ofNat]

/-! ## What a score is -/

theorem IsScore.value {x : Binary} (h : IsScore x) : ∃ q, x.toRat? = some q ∧ 1 ≤ q ∧ q ≤ 10 := by
  obtain ⟨n, hlow, hhigh, rfl⟩ := h
  obtain ⟨p, q, hp, hq, hpq⟩ := ofTenths_atMost hlow hhigh
  obtain ⟨q', r, hq', hr, hqr⟩ := ofTenths_atMost hhigh (Nat.le_refl 100)
  rw [toRat?_one] at hp
  rw [toRat?_ten] at hr
  rw [hq] at hq'
  cases hp
  cases hr
  cases hq'
  exact ⟨q, hq, hpq, hqr⟩

theorem ofTenths_written : ((List.range 101).all fun n => n < 10 ||
    Numeric.dataLayout.text binary64 (ofTenths n) == toString (n / 10) ++ "." ++ toString (n % 10)) = true := by
  decide +kernel

theorem text_ofTenths {n : Nat} (hlow : 10 ≤ n) (hhigh : n ≤ 100) :
    Numeric.dataLayout.text binary64 (ofTenths n) = toString (n / 10) ++ "." ++ toString (n % 10) :=
  eq_of_beq (of_all_tenths ofTenths_written hlow hhigh)

/-! ## Where scores come from -/

theorem isScore_neutral : IsScore neutral := ⟨50, by decide, by decide, rfl⟩

theorem isScore_score (findings : List Finding) : IsScore (score findings) := by
  refine ⟨tenths (findings.map (·.severity)), ?_, ?_, score_eq findings⟩
  · rw [tenths_eq]
    omega
  · rw [tenths_eq]
    omega

theorem kept_between {x : Binary} (hx : x.isFinite = true) :
    ∃ q, (if x.le (ofTenths 10) then ofTenths 10 else if (ofTenths 100).le x then ofTenths 100 else x).toRat? = some q ∧
      1 ≤ q ∧ q ≤ 10 := by
  obtain ⟨q, hq⟩ := Binary.isFinite_iff.mp hx
  have hlow := Binary.le_iff hq toRat?_one
  have hhigh := Binary.le_iff toRat?_ten hq
  split
  · exact ⟨1, toRat?_one, by norm_num, by norm_num⟩
  · next hnotLow =>
    rw [hlow, not_le] at hnotLow
    split
    · exact ⟨10, toRat?_ten, by norm_num, by norm_num⟩
    · next hnotHigh =>
      rw [hhigh, not_le] at hnotHigh
      exact ⟨q, hq, hnotLow.le, hnotHigh.le⟩

theorem isScore_clamp (x : Binary) : IsScore (clamp x) := by
  cases x with
  | nan => exact isScore_neutral
  | infinite => exact isScore_neutral
  | finite s m e =>
    obtain ⟨q, hq, hlow, hhigh⟩ := kept_between (x := .finite s m e) rfl
    have hleast : ((10 : Nat) : ℚ) ≤ q * (10 : Nat) := by
      push_cast
      linarith
    have hmost : q * (10 : Nat) ≤ ((100 : Nat) : ℚ) := by
      push_cast
      linarith
    obtain ⟨n, g, hmul, hten, hhundred⟩ := Numeric.Format.mul_between (f := binary64) (by decide) (by decide) hq
      (toRat?_ofNat (by decide : 10 ≤ 128)) (by linarith) (by norm_num) 10 100 hleast hmost (by decide)
    obtain ⟨hten, hhundred⟩ := Binary.nearest_between hten hhundred
    exact ⟨Binary.nearest n g, hten, hhundred, roundTenths_eq_ofTenths hmul hten hhundred⟩

/-! ## Stability -/

theorem ofTenths_kept : ((List.range 101).all fun n => n < 10 || clamp (ofTenths n) == ofTenths n) = true := by
  decide +kernel

theorem clamp_of_isScore {x : Binary} (h : IsScore x) : clamp x = x := by
  obtain ⟨n, hlow, hhigh, rfl⟩ := h
  exact eq_of_beq (of_all_tenths ofTenths_kept hlow hhigh)

end ContractAudit.Risk
