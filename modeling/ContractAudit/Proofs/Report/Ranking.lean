import ContractAudit.Report.Basic
import Mathlib.Data.List.Perm.Basic

/-!
# The order of findings in a report

A report ranks its findings by severity and keeps findings of one severity in their order (`ranked_sortBySeverity`).
`Ranked` compares the parts of one severity as lists, so nothing is lost, repeated, changed or moved within a severity.
-/

namespace ContractAudit

/-- The findings of one severity, in their order. -/
def ofSeverity (s : Severity) (findings : List Finding) : List Finding := findings.filter (·.severity == s)

/-- `Ranked report findings`: the report ranks the findings, those of one severity in their order. -/
structure Ranked (report findings : List Finding) : Prop where
  sorted : report.Pairwise fun f g => f.severity.rank ≤ g.severity.rank
  severities : ∀ s, ofSeverity s report = ofSeverity s findings

theorem sortBySeverity_perm (findings : List Finding) : (sortBySeverity findings).Perm findings :=
  List.mergeSort_perm _ _

theorem rank_trans (f g h : Finding) (hfg : decide (f.severity.rank ≤ g.severity.rank) = true)
    (hgh : decide (g.severity.rank ≤ h.severity.rank) = true) : decide (f.severity.rank ≤ h.severity.rank) = true := by
  rw [decide_eq_true_eq] at *
  omega

theorem rank_total (f g : Finding) :
    (decide (f.severity.rank ≤ g.severity.rank) || decide (g.severity.rank ≤ f.severity.rank)) = true := by
  rw [Bool.or_eq_true, decide_eq_true_eq, decide_eq_true_eq]
  omega

theorem pairwise_sortBySeverity (findings : List Finding) :
    (sortBySeverity findings).Pairwise fun f g => f.severity.rank ≤ g.severity.rank := by
  have hsorted := List.pairwise_mergeSort rank_trans rank_total findings
  exact hsorted.imp fun h => of_decide_eq_true h

theorem ofSeverity_sortBySeverity (s : Severity) (findings : List Finding) :
    ofSeverity s (sortBySeverity findings) = ofSeverity s findings := by
  have hequal : (ofSeverity s findings).Pairwise fun f g => decide (f.severity.rank ≤ g.severity.rank) = true := by
    refine List.pairwise_of_forall_mem_list fun f hf g hg => ?_
    rw [ofSeverity, List.mem_filter, beq_iff_eq] at hf hg
    rw [hf.2, hg.2]
    exact decide_eq_true (Nat.le_refl _)
  -- a part that is in order survives the sort as it is, so it is a part of the findings of that severity
  have hkept : (ofSeverity s findings).Sublist (sortBySeverity findings) :=
    List.sublist_mergeSort rank_trans rank_total hequal List.filter_sublist
  have hpart : (ofSeverity s findings).Sublist (ofSeverity s (sortBySeverity findings)) := by
    have hfiltered := hkept.filter (·.severity == s)
    simpa only [ofSeverity, List.filter_filter, Bool.and_self] using hfiltered
  have hlength : (ofSeverity s findings).length = (ofSeverity s (sortBySeverity findings)).length :=
    ((sortBySeverity_perm findings).filter _).length_eq.symm
  exact (hpart.eq_of_length hlength).symm

theorem sortBySeverity_of_pairwise {findings : List Finding}
    (h : findings.Pairwise fun f g => f.severity.rank ≤ g.severity.rank) : sortBySeverity findings = findings := by
  apply List.mergeSort_of_pairwise
  exact h.imp fun hle => decide_eq_true hle

theorem ranked_sortBySeverity (findings : List Finding) : Ranked (sortBySeverity findings) findings :=
  ⟨pairwise_sortBySeverity findings, fun s => ofSeverity_sortBySeverity s findings⟩

end ContractAudit
