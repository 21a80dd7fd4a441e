import ContractAudit.Audit.Basic

/-!
# The stages of an audit

An audit evaluates the rules, and concludes from their findings (`audit_eq`). Only the rules can fail, and neither the
reviewer nor the occasion has a part in them.
-/

namespace ContractAudit

open Review (Reviewer)

namespace Auditor

/-- What follows the rules: the review, the merge of its result, and the report. -/
def conclude (a : Auditor) (subject : Subject) (options : Options) (occasion : Occasion) (found : List Finding) :
    Audited :=
  let request := a.request? subject options found
  let merged := (a.outcome request).merge occasion.proposalId a.file found
  ⟨(draft subject merged occasion.milliseconds).report occasion.reportId occasion.now, request.map (·.2)⟩

theorem report_conclude (a : Auditor) (subject : Subject) (options : Options) (occasion : Occasion)
    (found : List Finding) : (a.conclude subject options occasion found).report =
      (draft subject ((a.outcome (a.request? subject options found)).merge occasion.proposalId a.file found)
        occasion.milliseconds).report occasion.reportId occasion.now := rfl

theorem audit_eq (a : Auditor) (subject : Subject) (options : Options) (occasion : Occasion) :
    a.audit subject options occasion =
      (a.findings subject options).map (a.conclude subject options occasion) := by
  unfold audit
  cases a.findings subject options <;> rfl

theorem of_audit_eq_ok {a : Auditor} {subject : Subject} {options : Options} {occasion : Occasion} {audited : Audited}
    (h : a.audit subject options occasion = .ok audited) :
    ∃ found, a.findings subject options = .ok found ∧ audited = a.conclude subject options occasion found := by
  rw [audit_eq] at h
  cases hfound : a.findings subject options with
  | error e =>
    rw [hfound] at h
    cases h
  | ok found =>
    rw [hfound] at h
    cases h
    exact ⟨found, rfl, rfl⟩

/-- The same auditor with another reviewer, or with none. -/
def withReviewer (a : Auditor) (reviewer : Option Reviewer) : Auditor := { a with reviewer }

@[simp] theorem findings_withReviewer (a : Auditor) (reviewer : Option Reviewer) (subject : Subject)
    (options : Options) : (a.withReviewer reviewer).findings subject options = a.findings subject options := rfl

end Auditor

/-- The same options without a review. -/
def Options.withoutReview (options : Options) : Options := { options with review := false }

@[simp] theorem Auditor.findings_withoutReview (a : Auditor) (subject : Subject) (options : Options) :
    a.findings subject options.withoutReview = a.findings subject options := rfl

end ContractAudit
