import ContractAudit.Proofs.Audit.Stages

/-!
# A review cannot break an audit

Whether an audit fails, and how, is settled before the reviewer is asked, and every reviewer is asked the same
(`review_never_breaks`). A review that fails costs the report only what reviews add: the findings are those of an audit
without a review, and the neutral score keeps the report from calling the contract safe. A reviewer that is absent, or
there in name only, leaves no trace at all.
-/

namespace ContractAudit

open Review (Reviewer Request Response Outcome Merged)

/-- No analysis, for any reason but that the reviewer is there in name only. -/
def Review.Response.Fails : Response → Prop
  | .late => True
  | .answer (.error e) => e ≠ .unconfigured
  | .answer (.ok _) => False

/-- There is no reviewer, or it is there in name only. -/
def Review.Unconfigured (reviewer : Option Reviewer) (request : Request) : Prop :=
  ∀ r ∈ reviewer, r.review request = .answer (.error .unconfigured)

/-! ## Comparing reports -/

namespace Report

/-- Two reports show the same findings and count them alike. -/
structure SameFindings (r t : Report) : Prop where
  findings : r.findings = t.findings
  total : r.summary.total = t.summary.total
  counts : [r.summary.critical, r.summary.high, r.summary.medium, r.summary.low, r.summary.info] =
    [t.summary.critical, t.summary.high, t.summary.medium, t.summary.low, t.summary.info]
  topConcerns : r.summary.topConcerns = t.summary.topConcerns
  categories : r.assessment.categories = t.assessment.categories

/-- Nothing that only a review contributes, and a score in the middle, with which no contract is called safe. -/
structure Unreviewed (r : Report) : Prop where
  suggestions : r.gas = [] ∧ r.practices = []
  model : r.provenance.model = none
  score : r.summary.score = Numeric.binary64.ofNat 5 ∧ r.assessment.score = Numeric.binary64.ofNat 5
  recommendation : r.summary.recommendation ≠ .safe

/-- The same report as of another occasion. -/
def asOf (r : Report) (occasion : Occasion) : Report :=
  { r with
    id := occasion.reportId
    timestamp := occasion.now
    provenance := { r.provenance with milliseconds := occasion.milliseconds } }

end Report

theorem neutral_eq_five : Risk.neutral = Numeric.binary64.ofNat 5 := by decide

/-- With the neutral score a contract is reviewed at best. -/
theorem recommend_neutral_ne_safe (hasCritical hasHigh : Bool) :
    Risk.recommend hasCritical hasHigh Risk.neutral ≠ .safe := by
  have hreached : (Risk.ofTenths 50).le Risk.neutral = true := by decide
  unfold Risk.recommend
  rw [hreached, Bool.or_true, if_pos rfl]
  split <;> decide

namespace Auditor

/-! ## What becomes of the review -/

theorem outcome_withoutReview (a : Auditor) (subject : Subject) (options : Options) (found : List Finding) :
    a.outcome (a.request? subject options.withoutReview found) = .skipped := rfl

theorem request_conclude (a : Auditor) (subject : Subject) (options : Options) (occasion : Occasion)
    (found : List Finding) : (a.conclude subject options occasion found).request =
      if options.review then a.reviewer.map fun _ => ⟨a.file, subject.source, found⟩ else none := by
  unfold conclude request?
  cases options.review <;> simp [Option.map_map, Function.comp_def]

theorem outcome_of_fails {a : Auditor} {subject : Subject} {options : Options} {found : List Finding} {r : Reviewer}
    (hreview : options.review = true) (hr : a.reviewer = some r)
    (hfails : (r.review ⟨a.file, subject.source, found⟩).Fails) :
    ∃ e, a.outcome (a.request? subject options found) = .failed e := by
  simp only [request?, hreview, hr, if_true, Option.map_some, outcome]
  revert hfails
  cases r.review ⟨a.file, subject.source, found⟩ with
  | late => exact fun _ => ⟨_, rfl⟩
  | answer result =>
    cases result with
    | ok analysis => exact False.elim
    | error e =>
      intro hfails
      cases e with
      | unconfigured => exact absurd rfl hfails
      | timeout limit => exact ⟨_, rfl⟩
      | request trace => exact ⟨_, rfl⟩
      | malformed detail => exact ⟨_, rfl⟩

theorem outcome_of_unconfigured {a : Auditor} {subject : Subject} {options : Options} {found : List Finding}
    (h : Review.Unconfigured a.reviewer ⟨a.file, subject.source, found⟩) :
    a.outcome (a.request? subject options found) = .skipped := by
  unfold request?
  cases options.review with
  | false => rfl
  | true =>
    cases hr : a.reviewer with
    | none => rfl
    | some r =>
      have hresponse := h r hr
      simp only [if_true, Option.map_some, outcome, hresponse]

/-! ## The reports -/

theorem sameFindings_of_failed {a : Auditor} {subject : Subject} {options : Options} {now later : Occasion}
    {found : List Finding} {e : Review.ReviewError}
    (h : a.outcome (a.request? subject options found) = .failed e) :
    (a.conclude subject options now found).report.SameFindings
      (a.conclude subject options.withoutReview later found).report := by
  rw [report_conclude, report_conclude, h, outcome_withoutReview]
  exact ⟨rfl, rfl, rfl, rfl, rfl⟩

theorem unreviewed_of_failed {a : Auditor} {subject : Subject} {options : Options} {occasion : Occasion}
    {found : List Finding} {e : Review.ReviewError}
    (h : a.outcome (a.request? subject options found) = .failed e) :
    (a.conclude subject options occasion found).report.Unreviewed := by
  rw [report_conclude, h]
  exact ⟨⟨rfl, rfl⟩, rfl, ⟨neutral_eq_five, neutral_eq_five⟩, recommend_neutral_ne_safe _ _⟩

theorem report_of_skipped {a : Auditor} {subject : Subject} {options : Options} {now later : Occasion}
    {found : List Finding} (h : a.outcome (a.request? subject options found) = .skipped) :
    (a.conclude subject options now found).report =
      (a.conclude subject options.withoutReview later found).report.asOf now := by
  rw [report_conclude, report_conclude, h, outcome_withoutReview]
  rfl

end Auditor

/-- **A review can neither break nor hide an audit by rules.** Either the audit fails with one error for all reviewers
and occasions, with or without a review; or there is one request, with the source and the findings of the rules, such
that the audit succeeds for all of them and every reviewer that is asked is asked just that. If the reviewer fails on
the request, the report has the findings of the audit without a review, nothing from a reviewer, the score 5.0 and a
recommendation other than safe. If there is no reviewer or it is there in name only, the report is that of the audit
without a review, apart from the occasion. -/
theorem review_never_breaks (a : Auditor) (subject : Subject) (options : Options) :
    (∃ e, ∀ reviewer occasion,
      (a.withReviewer reviewer).audit subject options occasion = .error e ∧
      (a.withReviewer reviewer).audit subject options.withoutReview occasion = .error e) ∨
    ∃ request : Request, request.file = a.file ∧ request.source = subject.source ∧
      a.findings subject options = .ok request.findings ∧
      ∀ reviewer now later, ∃ reviewed plain,
        (a.withReviewer reviewer).audit subject options now = .ok reviewed ∧
        (a.withReviewer reviewer).audit subject options.withoutReview later = .ok plain ∧
        reviewed.request = (if options.review then reviewer.map fun _ => request else none) ∧
        plain.request = none ∧
        (∀ r, options.review = true → reviewer = some r → (r.review request).Fails →
          reviewed.report.SameFindings plain.report ∧ reviewed.report.Unreviewed) ∧
        (Review.Unconfigured reviewer request → reviewed.report = plain.report.asOf now) := by
  cases hfound : a.findings subject options with
  | error e =>
    refine .inl ⟨e, fun reviewer occasion => ⟨?_, ?_⟩⟩
    · rw [Auditor.audit_eq, Auditor.findings_withReviewer, hfound]
      rfl
    · rw [Auditor.audit_eq, Auditor.findings_withoutReview, Auditor.findings_withReviewer, hfound]
      rfl
  | ok found =>
    refine .inr ⟨⟨a.file, subject.source, found⟩, rfl, rfl, rfl, fun reviewer now later => ?_⟩
    have hreviewed : (a.withReviewer reviewer).audit subject options now =
        .ok ((a.withReviewer reviewer).conclude subject options now found) := by
      rw [Auditor.audit_eq, Auditor.findings_withReviewer, hfound]
      rfl
    have hplain : (a.withReviewer reviewer).audit subject options.withoutReview later =
        .ok ((a.withReviewer reviewer).conclude subject options.withoutReview later found) := by
      rw [Auditor.audit_eq, Auditor.findings_withoutReview, Auditor.findings_withReviewer, hfound]
      rfl
    refine ⟨_, _, hreviewed, hplain, Auditor.request_conclude .., rfl, ?_, ?_⟩
    · intro r hreview hr hfails
      obtain ⟨e, he⟩ := Auditor.outcome_of_fails (a := a.withReviewer reviewer) hreview hr hfails
      exact ⟨Auditor.sameFindings_of_failed he, Auditor.unreviewed_of_failed he⟩
    · intro hunconfigured
      exact Auditor.report_of_skipped (Auditor.outcome_of_unconfigured hunconfigured)

end ContractAudit
