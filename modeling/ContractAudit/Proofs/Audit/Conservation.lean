import ContractAudit.Proofs.Audit.Stages
import ContractAudit.Proofs.Partial
import ContractAudit.Proofs.Report.Ranking
import ContractAudit.Proofs.Tree.Nodes

/-!
# Findings are conserved

What the rules find goes into the report, without the findings that the review dismisses and with the proposals whose
severity is one (`findings_conserved`). Apart from the ranking by severity nothing else happens to a finding on its way,
and the findings that the review confirms make no difference.
-/

namespace ContractAudit

open Review (Analysis Proposal Outcome Response Request)
open ContractAudit.Tree (cleanNode)

/-! ## Proposals -/

namespace Review

/-- The proposals whose severity is one, with their places. -/
def Analysis.accepted (analysis : Analysis) : List (Proposal × Nat) :=
  analysis.proposals.zipIdx.filter fun p => (Severity.read? p.1.severity).isSome

/-- `Becomes ids file p f`: the proposal becomes the finding, under the id that is drawn for its place. -/
structure Becomes (ids : Nat → String) (file : String) (p : Proposal × Nat) (f : Finding) : Prop where
  id : f.id = ids p.2
  severity : some f.severity = Severity.read? p.1.severity
  texts : f.name = p.1.description ∧ f.description = p.1.description ∧ f.explanation = p.1.description
  advice : f.scenario = p.1.recommendation ∧ f.recommendation = p.1.recommendation
  /-- A place without a file is in the file of the audit. -/
  location : f.location = { p.1.location with file := if p.1.location.file = "" then file else p.1.location.file }
  marks : f.snippet = "" ∧ f.references = ["AI Analysis"] ∧ f.confidence = percent 70

theorem becomes_of_finding? {ids : Nat → String} {file : String} {p : Proposal × Nat} {f : Finding}
    (h : p.1.finding? (ids p.2) file = some f) : Becomes ids file p f := by
  obtain ⟨severity, hseverity, rfl⟩ := Option.map_eq_some_iff.mp h
  refine ⟨rfl, hseverity.symm, ⟨rfl, rfl, rfl⟩, ⟨rfl, rfl⟩, ?_, ⟨rfl, rfl, rfl⟩⟩
  by_cases hfile : p.1.location.file = "" <;> simp [hfile]

theorem isSome_finding? (p : Proposal) (id file : String) :
    (p.finding? id file).isSome = (Severity.read? p.severity).isSome :=
  Option.isSome_map

theorem forall₂_findingsOf (ids : Nat → String) (file : String) (analysis : Analysis) :
    List.Forall₂ (Becomes ids file) analysis.accepted (findingsOf ids file analysis.proposals) := by
  unfold Analysis.accepted findingsOf
  have hsome : ∀ p : Proposal × Nat, (p.1.finding? (ids p.2) file).isSome = (Severity.read? p.1.severity).isSome :=
    fun p => isSome_finding? p.1 (ids p.2) file
  have hbecomes : ∀ (p : Proposal × Nat) (f : Finding), p.1.finding? (ids p.2) file = some f → Becomes ids file p f :=
    fun _ _ => becomes_of_finding?
  exact forall₂_filterMap hsome hbecomes analysis.proposals.zipIdx

theorem filter_findingsOf {ids : Nat → String} {file : String} {analysis : Analysis}
    (hfresh : ∀ p ∈ analysis.accepted, ids p.2 ∉ analysis.dismissed) :
    (findingsOf ids file analysis.proposals).filter (fun f => !analysis.dismissed.contains f.id) =
      findingsOf ids file analysis.proposals := by
  refine List.filter_eq_self.mpr fun f hf => ?_
  have hall := (forall₂_findingsOf ids file analysis)
  obtain ⟨p, hp, hbecomes⟩ : ∃ p ∈ analysis.accepted, Becomes ids file p f := by
    obtain ⟨i, hi, rfl⟩ := List.mem_iff_getElem.mp hf
    have hlength := hall.length_eq
    exact ⟨_, List.getElem_mem (by omega), hall.get (by omega) hi⟩
  rw [hbecomes.id, List.contains_eq_mem, ← decide_not]
  exact decide_eq_true (hfresh p hp)

end Review

/-! ## Confirmed findings -/

/-- The same response with other confirmed findings. -/
def Review.Response.reconfirm (confirm : Analysis → List String) : Response → Response
  | .answer (.ok analysis) => .answer (.ok { analysis with confirmed := confirm analysis })
  | response => response

/-- The same auditor with a reviewer that confirms other findings. -/
def Auditor.reconfirmed (a : Auditor) (confirm : Analysis → List String) : Auditor :=
  a.withReviewer (a.reviewer.map fun r => { r with review := fun request => (r.review request).reconfirm confirm })

theorem Auditor.audit_reconfirmed (a : Auditor) (confirm : Analysis → List String) (subject : Subject)
    (options : Options) (occasion : Occasion) :
    (a.reconfirmed confirm).audit subject options occasion = a.audit subject options occasion := by
  rw [audit_eq, audit_eq]
  congr 1
  funext found
  have hrequest : ((a.reconfirmed confirm).request? subject options found).map (·.2) =
      (a.request? subject options found).map (·.2) := by
    unfold request? reconfirmed withReviewer
    cases options.review <;> cases a.reviewer <;> rfl
  have hmerged : ((a.reconfirmed confirm).outcome ((a.reconfirmed confirm).request? subject options found)).merge
      occasion.proposalId a.file found =
      (a.outcome (a.request? subject options found)).merge occasion.proposalId a.file found := by
    unfold request? reconfirmed withReviewer
    cases options.review with
    | false => rfl
    | true =>
      cases a.reviewer with
      | none => rfl
      | some r =>
        simp only [if_true, Option.map_some, outcome]
        cases r.review ⟨a.file, subject.source, found⟩ with
        | late => rfl
        | answer result =>
          cases result with
          | ok analysis => rfl
          | error e => cases e <;> rfl
  have hfile : (a.reconfirmed confirm).file = a.file := rfl
  simp only [conclude, hrequest, hfile, hmerged]

/-! ## The report -/

theorem findings_conclude (a : Auditor) (subject : Subject) (options : Options) (occasion : Occasion)
    (found : List Finding) : (a.conclude subject options occasion found).report.findings = sortBySeverity
      ((a.outcome (a.request? subject options found)).merge occasion.proposalId a.file found).findings := rfl

/-- **Findings are conserved from the rules to the report.** If the review is completed and the ids that are drawn for
its proposals are not among those that it dismisses, the report ranks the findings of the rules that are not dismissed,
followed by what the proposals with a severity become. Without a completed review it ranks the findings of the rules.
Which findings the review confirms does not matter. -/
theorem findings_conserved (a : Auditor) (subject : Subject) (options : Options) (occasion : Occasion)
    (audited : Audited) (hok : a.audit subject options occasion = .ok audited) :
    ∃ found, a.findings subject options = .ok found ∧
      (∀ analysis, a.outcome (a.request? subject options found) = .completed analysis →
        (∀ p ∈ analysis.accepted, occasion.proposalId p.2 ∉ analysis.dismissed) →
        ∃ proposed, List.Forall₂ (Review.Becomes occasion.proposalId a.file) analysis.accepted proposed ∧
          Ranked audited.report.findings ((found.filter fun f => f.id ∉ analysis.dismissed) ++ proposed)) ∧
      ((∀ analysis, a.outcome (a.request? subject options found) ≠ .completed analysis) →
        Ranked audited.report.findings found) ∧
      ∀ confirm, (a.reconfirmed confirm).audit subject options occasion = .ok audited := by
  obtain ⟨found, hfound, rfl⟩ := Auditor.of_audit_eq_ok hok
  rw [findings_conclude]
  refine ⟨found, hfound, ?_, ?_, fun confirm => (a.audit_reconfirmed ..).trans hok⟩
  · intro analysis houtcome hfresh
    refine ⟨_, Review.forall₂_findingsOf occasion.proposalId a.file analysis, ?_⟩
    have hmerged : ((a.outcome (a.request? subject options found)).merge occasion.proposalId a.file found).findings =
        (found.filter fun f => f.id ∉ analysis.dismissed) ++
          Review.findingsOf occasion.proposalId a.file analysis.proposals := by
      have hkept : (fun f : Finding => !analysis.dismissed.contains f.id) =
          fun f => decide (f.id ∉ analysis.dismissed) := by
        funext f
        rw [List.contains_eq_mem, decide_not]
      rw [houtcome, Outcome.merge]
      show (found ++ Review.findingsOf occasion.proposalId a.file analysis.proposals).filter _ = _
      rw [List.filter_append, Review.filter_findingsOf hfresh, hkept]
    rw [hmerged]
    exact ranked_sortBySeverity _
  · intro hnot
    have hmerged : ((a.outcome (a.request? subject options found)).merge occasion.proposalId a.file found).findings =
        found := by
      cases houtcome : a.outcome (a.request? subject options found) with
      | skipped => rfl
      | failed e => rfl
      | completed analysis => exact absurd houtcome (hnot analysis)
    rw [hmerged]
    exact ranked_sortBySeverity _

/-! ## An audit with a completed review -/

/-- The contract `contract A \x7b\x7d` with its tree. -/
def emptyContract : Subject where
  name := "A"
  source := "contract A \x7b\x7d"
  tree := cleanNode "source_file" true 0 13 [] [cleanNode "contract_declaration" true 0 13 []
    [cleanNode "identifier" true 9 10 ["name"] [], cleanNode "contract_body" true 11 13 ["body"] []]]

def bareFinding (id : String) (severity : Severity) : Finding :=
  { (default : Finding) with id, severity, confidence := percent 50 }

/-- A rule that finds the same three things in every contract. -/
def threefoldRule : Rule where
  id := "XX-01"
  name := "Three findings"
  severity := .low
  description := ""
  recommendation := ""
  references := []
  confidence := percent 50
  matcher := .structural fun _ _ => .ok [bareFinding "XX-01" .low, bareFinding "XX-02" .high, bareFinding "XX-03" .low]

/-- A review that dismisses one of them and has two proposals, one of which has no severity. -/
def mixedAnalysis : Analysis where
  score := Risk.neutral
  summary := "Mixed"
  proposals := [⟨"Too vague", "catastrophic", .unknown "", ""⟩, ⟨"Price can be manipulated", " high", .unknown "", ""⟩]
  confirmed := ["XX-02"]
  dismissed := ["XX-01"]
  gas := []
  practices := []
  model := none

def mixedAuditor : Auditor :=
  (Auditor.ofRegistry ⟨[threefoldRule]⟩).withReviewer (some ⟨none, fun _ => .answer (.ok mixedAnalysis)⟩)

def firstOccasion : Occasion := ⟨"audit-0", Review.proposalId, .epoch, 0⟩

theorem findings_mixedAuditor : mixedAuditor.findings emptyContract ⟨true, [], []⟩ =
    .ok [bareFinding "XX-01" .low, bareFinding "XX-02" .high, bareFinding "XX-03" .low] := by
  rfl

/-- The dismissed finding is gone, and the proposal with a severity stands behind the findings of the rule. -/
theorem findings_conserved_mixed : ∃ audited proposed,
    mixedAuditor.audit emptyContract ⟨true, [], []⟩ firstOccasion = .ok audited ∧
    List.Forall₂ (Review.Becomes Review.proposalId defaultFile)
      [(⟨"Price can be manipulated", " high", .unknown "", ""⟩, 1)] proposed ∧
    Ranked audited.report.findings ([bareFinding "XX-02" .high, bareFinding "XX-03" .low] ++ proposed) := by
  have hok := mixedAuditor.audit_eq emptyContract ⟨true, [], []⟩ firstOccasion
  rw [findings_mixedAuditor] at hok
  obtain ⟨found, hfound, hcompleted, -, -⟩ := findings_conserved _ _ _ _ _ hok
  rw [findings_mixedAuditor] at hfound
  obtain rfl := Except.ok.inj hfound
  obtain ⟨proposed, hproposed, hranked⟩ := hcompleted mixedAnalysis rfl (by decide)
  exact ⟨_, proposed, hok, hproposed, hranked⟩

end ContractAudit
