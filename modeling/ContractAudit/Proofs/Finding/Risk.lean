import ContractAudit.Proofs.Finding.Weight
import Mathlib.Data.List.Forall2

/-!
# Scores grow with the findings

The score of some findings depends on their total weight alone. So it does not depend on the order of the findings
(`halvesByCount_perm`), and it never falls when findings are added (`score_le_of_sublist`) or become more severe; nor
does the recommendation soften then (`rank_recommend_le`).
-/

namespace ContractAudit.Risk

open Numeric (Binary binary64)

/-! ## Scores -/

/-- One number is at most another, as rational numbers. -/
def AtMost (x y : Binary) : Prop := ∃ p q, x.toRat? = some p ∧ y.toRat? = some q ∧ p ≤ q

theorem AtMost.reaches {x y mark : Binary} (h : AtMost x y) (hmark : mark.isFinite = true) (hle : mark.le x = true) :
    mark.le y = true := by
  obtain ⟨r, hr⟩ := Binary.isFinite_iff.mp hmark
  obtain ⟨p, q, hp, hq, hpq⟩ := h
  have hrp : r ≤ p := (Binary.le_iff hr hp).mp hle
  exact (Binary.le_iff hr hq).mpr (hrp.trans hpq)

theorem ofTenths_ascending : ((List.range 101).all fun n =>
    (ofTenths n).isFinite && (ofTenths n).le (ofTenths (n + 1))) = true := by
  decide +kernel

theorem ofTenths_atMost {m n : Nat} (hmn : m ≤ n) (hn : n ≤ 100) : AtMost (ofTenths m) (ofTenths n) := by
  have hstep : ∀ k ≤ 100, (∃ q, (ofTenths k).toRat? = some q) ∧ (ofTenths k).le (ofTenths (k + 1)) = true := by
    intro k hk
    have hall := List.all_eq_true.mp ofTenths_ascending k (List.mem_range.mpr (by omega))
    rw [Bool.and_eq_true] at hall
    exact ⟨Binary.isFinite_iff.mp hall.1, hall.2⟩
  induction n, hmn using Nat.le_induction with
  | base =>
    obtain ⟨q, hq⟩ := (hstep m hn).1
    exact ⟨q, q, hq, hq, le_refl q⟩
  | succ n hmn ih =>
    obtain ⟨p, q, hp, hq, hpq⟩ := ih (by omega)
    obtain ⟨r, hr⟩ := (hstep (n + 1) hn).1
    have hqr : q ≤ r := (Binary.le_iff hq hr).mp (hstep n (by omega)).2
    exact ⟨p, r, hp, hr, hpq.trans hqr⟩

theorem totalHalves_le_of_sublist {fewer more : List Severity} (h : fewer.Sublist more) :
    totalHalves fewer ≤ totalHalves more := by
  induction h with
  | slnil => exact Nat.le_refl _
  | cons s _ ih =>
    rw [totalHalves_cons]
    omega
  | cons_cons s _ ih =>
    rw [totalHalves_cons, totalHalves_cons]
    omega

theorem halves_le_of_rank_le {s t : Severity} (h : t.rank ≤ s.rank) : s.halves ≤ t.halves := by
  revert h
  cases s <;> cases t <;> decide

theorem halvesByCount_le_of_forall₂ {findings raised : List Finding}
    (h : List.Forall₂ (fun f g => g.severity.rank ≤ f.severity.rank) findings raised) :
    halvesByCount findings ≤ halvesByCount raised := by
  rw [← totalHalves_eq, ← totalHalves_eq]
  induction h with
  | nil => exact Nat.le_refl _
  | cons hrank _ ih =>
    rw [List.map_cons, List.map_cons, totalHalves_cons, totalHalves_cons]
    exact Nat.add_le_add (halves_le_of_rank_le hrank) ih

theorem halvesByCount_le_of_sublist {fewer more : List Finding} (h : fewer.Sublist more) :
    halvesByCount fewer ≤ halvesByCount more := by
  rw [← totalHalves_eq, ← totalHalves_eq]
  exact totalHalves_le_of_sublist (h.map _)

theorem halvesByCount_perm {findings other : List Finding} (h : other.Perm findings) :
    halvesByCount other = halvesByCount findings := by
  simp only [halvesByCount, h.countP_eq]

theorem score_le_of_halves {findings more : List Finding} (h : halvesByCount findings ≤ halvesByCount more) :
    exactScore findings ≤ exactScore more ∧ AtMost (score findings) (score more) := by
  rw [← totalHalves_eq, ← totalHalves_eq] at h
  have htenths : tenths (findings.map (·.severity)) ≤ tenths (more.map (·.severity)) := by
    rw [tenths_eq, tenths_eq]
    omega
  have hmost : tenths (more.map (·.severity)) ≤ 100 := by
    rw [tenths_eq]
    omega
  rw [score_eq, score_eq]
  refine ⟨?_, ofTenths_atMost htenths hmost⟩
  have hcast : (tenths (findings.map (·.severity)) : ℚ) ≤ tenths (more.map (·.severity)) := by exact_mod_cast htenths
  rw [exactScore_eq, exactScore_eq]
  linarith

theorem score_le_of_sublist {fewer more : List Finding} (h : fewer.Sublist more) :
    AtMost (score fewer) (score more) :=
  (score_le_of_halves (halvesByCount_le_of_sublist h)).2

/-- **The score is an exact function of the severities.** In exact arithmetic it is a number of tenths that follows from
the halves of all weights together. The score, which is computed step by step with floating-point numbers, is that number
rounded once. It is 1 without findings, does not depend on their order, and never falls when findings are put in anywhere
or become more severe. -/
theorem score_exact (findings : List Finding) :
    (exactScore findings = ((min 100 (10 + (5 * halvesByCount findings + 1) / 2) : Nat) : ℚ) / 10 ∧
      binary64.Rounds (exactScore findings) (score findings) ∧
      score findings = ofTenths (min 100 (10 + (5 * halvesByCount findings + 1) / 2))) ∧
    (exactScore [] = 1 ∧ (score []).toRat? = some 1) ∧
    (∀ other : List Finding, other.Perm findings →
      exactScore other = exactScore findings ∧ score other = score findings) ∧
    (∀ more : List Finding, findings.Sublist more →
      exactScore findings ≤ exactScore more ∧ AtMost (score findings) (score more)) ∧
    ∀ raised : List Finding, List.Forall₂ (fun f g => g.severity.rank ≤ f.severity.rank) findings raised →
      exactScore findings ≤ exactScore raised ∧ AtMost (score findings) (score raised) := by
  have hformula : ∀ fs : List Finding,
      tenths (fs.map (·.severity)) = min 100 (10 + (5 * halvesByCount fs + 1) / 2) := fun fs => by
    rw [tenths_eq, totalHalves_eq]
  have hone : (score []).toRat? = some ((1 : Nat) : ℚ) := toRat?_ofNat (by decide : 1 ≤ 128)
  refine ⟨⟨?_, ?_, ?_⟩, ⟨by simp [exactScore], by rw [hone, Nat.cast_one]⟩, fun other hperm => ?_,
    fun more hsublist => score_le_of_halves (halvesByCount_le_of_sublist hsublist),
    fun raised hraised => score_le_of_halves (halvesByCount_le_of_forall₂ hraised)⟩
  · rw [exactScore_eq, hformula]
  · rw [exactScore_eq, score_eq]
    exact ⟨false, _, 10, by decide, rfl, by norm_num, by simp⟩
  · rw [score_eq, hformula]
  · rw [exactScore_eq, exactScore_eq, score_eq, score_eq, hformula, hformula, halvesByCount_perm hperm]
    exact ⟨rfl, rfl⟩

/-! ## Recommendations -/

/-- From the mildest to the most severe. -/
def Recommendation.rank : Recommendation → Nat
  | safe => 0
  | review => 1
  | doNotDeploy => 2

theorem rank_recommend_le {critical critical' high high' : Bool} {x y : Binary}
    (hcritical : critical = true → critical' = true) (hhigh : high = true → high' = true) (hscore : AtMost x y) :
    (recommend critical high x).rank ≤ (recommend critical' high' y).rank := by
  have hblocked : (critical || (ofTenths 80).le x) = true → (critical' || (ofTenths 80).le y) = true := by
    rw [Bool.or_eq_true, Bool.or_eq_true]
    exact Or.imp hcritical (hscore.reaches (by decide))
  have hreviewed : (high || (ofTenths 50).le x) = true → (high' || (ofTenths 50).le y) = true := by
    rw [Bool.or_eq_true, Bool.or_eq_true]
    exact Or.imp hhigh (hscore.reaches (by decide))
  unfold recommend
  split
  · next h => rw [if_pos (hblocked h)]
  · split
    · next h =>
      rw [if_pos (hreviewed h)]
      split <;> decide
    · exact Nat.zero_le _

end ContractAudit.Risk
