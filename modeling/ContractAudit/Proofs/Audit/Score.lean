import ContractAudit.Proofs.Audit.Conservation
import ContractAudit.Proofs.Audit.Degradation
import ContractAudit.Proofs.Finding.Clamp
import ContractAudit.Proofs.Review.Reply

/-!
# The score of a report

The score of a report comes from the findings, from a failed review, or from the reviewer. Each of them yields a whole
number of tenths from 1 to 10. A score that is read from a reply is brought into range when it is read and again when it
is merged; the second time changes nothing.
-/

namespace ContractAudit

open Numeric (Binary)
open Review (Reviewer Request Outcome Analysis)

namespace Review

/-! ## Replies -/

theorem isScore_scoreOf (given : Option Binary) : Risk.IsScore (scoreOf given) := by
  cases given with
  | none => exact Risk.isScore_neutral
  | some value =>
    rw [scoreOf]
    split
    · exact Risk.isScore_clamp value
    · exact Risk.isScore_neutral

theorem isScore_of_decodeAnalysis {file : String} {model : Option String} {bound : Nat} {j : Json} {analysis : Analysis}
    (h : decodeAnalysis file model bound j = some analysis) : Risk.IsScore analysis.score := by
  simp only [decodeAnalysis, Option.bind_eq_bind, Option.bind_eq_some_iff] at h
  obtain ⟨r, -, given, -, summary, -, proposals, -, confirmed, -, dismissed, -, gas, -, practices, -, hanalysis⟩ := h
  cases hanalysis
  exact isScore_scoreOf given

theorem isScore_of_readReply {raw file : String} {model : Option String} {analysis : Analysis}
    (h : readReply raw file model = .ok analysis) : Risk.IsScore analysis.score := by
  obtain ⟨bound, j, hdecoded⟩ := decoded_of_readPayload h
  exact isScore_of_decodeAnalysis hdecoded

/-! ## Outcomes -/

theorem isScore_merge (outcome : Outcome) (ids : Nat → String) (file : String) (found : List Finding) :
    Risk.IsScore (outcome.merge ids file found).score := by
  cases outcome with
  | skipped => exact Risk.isScore_score found
  | failed e => exact Risk.isScore_neutral
  | completed analysis => exact Risk.isScore_clamp analysis.score

end Review

namespace Auditor

theorem outcome_of_answer {a : Auditor} {subject : Subject} {options : Options} {occasion : Occasion}
    {found : List Finding} {reviewer : Reviewer} {request : Request} {analysis : Analysis}
    (hreviewer : a.reviewer = some reviewer)
    (hrequest : (a.conclude subject options occasion found).request = some request)
    (hanswer : reviewer.review request = .answer (.ok analysis)) :
    a.outcome (a.request? subject options found) = .completed analysis := by
  rw [request_conclude, hreviewer] at hrequest
  split at hrequest
  · next hreview =>
    obtain rfl := Option.some.inj hrequest
    rw [request?, if_pos hreview, hreviewer, Option.map_some, outcome, hanswer]
  · cases hrequest

/-- **The score of every report is in range and stable.** Whatever score the reviewer gives, a number or not, the report
has one score in both of its places: a whole number of tenths from 1 to 10, which is written with one digit behind the
point. An analysis that was read from a reply keeps its score, since bringing it into range again does not change it. -/
theorem score_in_range (a : Auditor) (subject : Subject) (options : Options) (occasion : Occasion) (audited : Audited)
    (hok : a.audit subject options occasion = .ok audited) :
    audited.report.summary.score = audited.report.assessment.score ∧
    (∃ n, 10 ≤ n ∧ n ≤ 100 ∧ audited.report.summary.score = Risk.ofTenths n ∧
      Numeric.dataLayout.text Numeric.binary64 audited.report.summary.score =
        toString (n / 10) ++ "." ++ toString (n % 10)) ∧
    (∃ q, audited.report.summary.score.toRat? = some q ∧ 1 ≤ q ∧ q ≤ 10) ∧
    ∀ reviewer request analysis, a.reviewer = some reviewer → audited.request = some request →
      reviewer.review request = .answer (.ok analysis) →
      (∃ raw file model, Review.readReply raw file model = .ok analysis) →
        audited.report.summary.score = analysis.score ∧ Risk.clamp analysis.score = analysis.score := by
  obtain ⟨found, -, rfl⟩ := of_audit_eq_ok hok
  have hscore : (a.conclude subject options occasion found).report.summary.score =
      ((a.outcome (a.request? subject options found)).merge occasion.proposalId a.file found).score := rfl
  have hisScore : Risk.IsScore (a.conclude subject options occasion found).report.summary.score := by
    rw [hscore]
    exact Review.isScore_merge _ _ _ _
  refine ⟨rfl, ?_, hisScore.value, ?_⟩
  · obtain ⟨n, hlow, hhigh, htenths⟩ := hisScore
    refine ⟨n, hlow, hhigh, htenths, ?_⟩
    rw [htenths]
    exact Risk.text_ofTenths hlow hhigh
  · rintro reviewer request analysis hreviewer hrequest hanswer ⟨raw, file, model, hread⟩
    have hstable := Risk.clamp_of_isScore (Review.isScore_of_readReply hread)
    refine ⟨?_, hstable⟩
    rw [hscore, outcome_of_answer hreviewer hrequest hanswer]
    exact hstable

end Auditor

/-! ## A score between two tenths -/

/-- A reply with a score whose tenfold lies in the middle between two whole numbers. -/
def halfwayReply : String := "\x7b\"overallRiskScore\": 7.35\x7d"

/-- An auditor without rules, whose reviewer always replies so. -/
def halfwayAuditor : Auditor :=
  (Auditor.ofRegistry ⟨[]⟩).withReviewer
    (some ⟨none, fun request => .answer (Review.readReply halfwayReply request.file none)⟩)

theorem Auditor.findings_halfwayAuditor : halfwayAuditor.findings emptyContract ⟨true, [], []⟩ = .ok [] := rfl

theorem Review.score_halfwayReply :
    (Review.readReply halfwayReply defaultFile none).toOption.map (·.score) = some (Risk.ofTenths 74) := by
  decide +kernel

/-- The score is rounded up once, and the report has it as it was read. -/
theorem Auditor.score_in_range_halfway : ∃ audited analysis,
    halfwayAuditor.audit emptyContract ⟨true, [], []⟩ firstOccasion = .ok audited ∧
    Review.readReply halfwayReply defaultFile none = .ok analysis ∧ analysis.score = Risk.ofTenths 74 ∧
    audited.report.summary.score = analysis.score ∧
    ∃ q, audited.report.summary.score.toRat? = some q ∧ 1 ≤ q ∧ q ≤ 10 := by
  have hok := halfwayAuditor.audit_eq emptyContract ⟨true, [], []⟩ firstOccasion
  rw [findings_halfwayAuditor] at hok
  have hscore := Review.score_halfwayReply
  cases hread : Review.readReply halfwayReply defaultFile none with
  | error e =>
    rw [hread] at hscore
    cases hscore
  | ok analysis =>
    rw [hread] at hscore
    obtain ⟨-, -, hvalue, hstable⟩ := score_in_range _ _ _ _ _ hok
    have hanswer := hstable _ _ analysis rfl rfl (congrArg Review.Response.answer hread) ⟨_, _, _, hread⟩
    exact ⟨_, analysis, hok, rfl, Option.some.inj hscore, hanswer.1, hvalue⟩

end ContractAudit
