import ContractAudit.Proofs.Audit.Conservation
import ContractAudit.Proofs.Audit.Degradation
import ContractAudit.Proofs.Finding.Risk
import ContractAudit.Proofs.Rule.Registry
import Mathlib.Data.List.Flatten

/-!
# More rules never make a contract look safer

A shorter skip list leaves more rules in a registry, more rules find more, and more findings never lower the score or
soften the recommendation. `Auditor.more_rules_never_safer` follows two audits through these steps.
-/

namespace ContractAudit

/-! ## Rules -/

theorem Registry.without_sublist {skip wider : List String} (h : ∀ id ∈ skip, id ∈ wider) (rules : List Rule) :
    (without wider rules).Sublist (without skip rules) := by
  refine List.monotone_filter_right rules fun r hr => ?_
  rw [List.contains_eq_mem, Bool.not_eq_true', decide_eq_false_iff_not] at hr ⊢
  exact fun hid => hr (h _ hid)

theorem Scan.findings_sublist (scan : Scan) {fewer more : Registry} (h : fewer.rules.Sublist more.rules) :
    (scan.findings fewer).Sublist (scan.findings more) :=
  h.flatMap scan.ruleFindings

namespace Auditor

/-- Two skip lists, one within the other: the rules fail in the same way for both, or the wider one finds a part of what
the other one finds. -/
theorem findings_sublist (a : Auditor) (subject : Subject) (review : Bool) {skip wider : List String}
    (h : ∀ id ∈ skip, id ∈ wider) (custom : List Rule) :
    (∃ e, a.findings subject ⟨review, skip, custom⟩ = .error e ∧ a.findings subject ⟨review, wider, custom⟩ = .error e) ∨
    ∃ more fewer, a.findings subject ⟨review, skip, custom⟩ = .ok more ∧
      a.findings subject ⟨review, wider, custom⟩ = .ok fewer ∧ fewer.Sublist more := by
  unfold findings
  rw [Registry.configured_eq, Registry.configured_eq]
  cases Solidity.SourceUnit.ofTree subject.source.toList subject.tree with
  | error e => exact .inl ⟨_, rfl, rfl⟩
  | ok unit =>
    cases Registry.checkRules [] custom with
    | error e => exact .inl ⟨_, rfl, rfl⟩
    | ok _ => exact .inr ⟨_, _, rfl, rfl, Scan.findings_sublist _ (Registry.without_sublist h _)⟩

end Auditor

/-! ## Reports -/

theorem countOf_pos_of_sublist {fewer more : List Finding} (h : fewer.Sublist more) (s : Severity) :
    decide (0 < countOf s fewer) = true → decide (0 < countOf s more) = true := by
  rw [decide_eq_true_eq, decide_eq_true_eq]
  exact fun hpos => hpos.trans_le h.countP_le

/-- One report shows a contract at least as safe as another does. -/
structure Report.Milder (mild severe : Report) : Prop where
  summaryScore : Risk.AtMost mild.summary.score severe.summary.score
  assessmentScore : Risk.AtMost mild.assessment.score severe.assessment.score
  recommendation : mild.summary.recommendation.rank ≤ severe.summary.recommendation.rank

theorem Auditor.milder_conclude {a : Auditor} {subject : Subject} {options options' : Options} {now later : Occasion}
    {fewer more : List Finding} (hmore : a.outcome (a.request? subject options more) = .skipped)
    (hfewer : a.outcome (a.request? subject options' fewer) = .skipped) (h : fewer.Sublist more) :
    (a.conclude subject options' later fewer).report.Milder (a.conclude subject options now more).report := by
  have hscore := Risk.score_le_of_sublist h
  rw [report_conclude, report_conclude, hmore, hfewer]
  exact ⟨hscore, hscore, Risk.rank_recommend_le (countOf_pos_of_sublist h .critical) (countOf_pos_of_sublist h .high) hscore⟩

namespace Auditor

/-- No review takes place: none is wanted, or there is no reviewer, or it is there in name only. -/
def GoesByRules (a : Auditor) (review : Bool) : Prop := review = true → ∀ request, Review.Unconfigured a.reviewer request

theorem GoesByRules.outcome {a : Auditor} {options : Options} (h : a.GoesByRules options.review) (subject : Subject)
    (found : List Finding) : a.outcome (a.request? subject options found) = .skipped := by
  cases hreview : options.review with
  | false =>
    rw [request?, hreview]
    rfl
  | true => exact outcome_of_unconfigured (h hreview _)

/-- **More rules never make a contract look safer.** Of two audits without a review, let the second skip all that the
first skips, and perhaps more. Then both fail with the same error, or the score of the first is at least that of the
second, and its recommendation is at least as severe. -/
theorem more_rules_never_safer (a : Auditor) (subject : Subject) (review : Bool) (skip wider : List String)
    (custom : List Rule) (now later : Occasion) (hplain : a.GoesByRules review) (hskip : ∀ id ∈ skip, id ∈ wider) :
    (∃ e, a.audit subject ⟨review, skip, custom⟩ now = .error e ∧
      a.audit subject ⟨review, wider, custom⟩ later = .error e) ∨
    ∃ severe mild, a.audit subject ⟨review, skip, custom⟩ now = .ok severe ∧
      a.audit subject ⟨review, wider, custom⟩ later = .ok mild ∧ mild.report.Milder severe.report := by
  rw [audit_eq, audit_eq]
  obtain ⟨e, hmore, hfewer⟩ | ⟨more, fewer, hmore, hfewer, hsublist⟩ :=
    a.findings_sublist subject review hskip custom
  · rw [hmore, hfewer]
    exact .inl ⟨e, rfl, rfl⟩
  · rw [hmore, hfewer]
    exact .inr ⟨_, _, rfl, rfl, milder_conclude (hplain.outcome _ _) (hplain.outcome _ _) hsublist⟩

/-- With the rule that finds three things, a contract is to be reviewed; without it nothing is found. -/
theorem more_rules_never_safer_threefold : ∃ severe mild,
    (ofRegistry ⟨[threefoldRule]⟩).audit emptyContract ⟨true, [], []⟩ firstOccasion = .ok severe ∧
    (ofRegistry ⟨[threefoldRule]⟩).audit emptyContract ⟨true, ["XX-01"], []⟩ firstOccasion = .ok mild ∧
    mild.report.Milder severe.report ∧
    severe.report.summary.recommendation = .review ∧ mild.report.summary.recommendation = .safe := by
  have hplain : (ofRegistry ⟨[threefoldRule]⟩).GoesByRules true := fun _ _ _ h => nomatch h
  obtain ⟨e, he, -⟩ | ⟨severe, mild, hsevere, hmild, hmilder⟩ :=
    more_rules_never_safer (ofRegistry ⟨[threefoldRule]⟩) emptyContract true [] ["XX-01"] [] firstOccasion firstOccasion
      hplain (by simp)
  · rw [audit_eq] at he
    cases he
  · obtain ⟨more, hmore, rfl⟩ := of_audit_eq_ok hsevere
    obtain ⟨fewer, hfewer, rfl⟩ := of_audit_eq_ok hmild
    cases hmore
    cases hfewer
    exact ⟨_, _, hsevere, hmild, hmilder, by decide +kernel, by decide +kernel⟩

end Auditor

end ContractAudit
