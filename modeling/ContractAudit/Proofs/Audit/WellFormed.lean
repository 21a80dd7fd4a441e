import ContractAudit.Proofs.Audit.Conservation
import ContractAudit.Proofs.Numeric.Order
import ContractAudit.Proofs.Review.Reply
import ContractAudit.Proofs.Rule.Catalogue
import ContractAudit.Proofs.Rule.Registry

/-!
# Everything in a report is well formed

A scan checks what predicates find and nothing else. What a pattern finds is well formed because every registry has
checked its rules, and what a proposal becomes because of the id that is drawn for it. So all findings of a report are
well formed, and those of standard rules and of replies are in the file of the audit (`Auditor.report_wellFormed`).
-/

namespace ContractAudit

open Numeric (Binary)
open Review (Analysis Outcome Proposal Reviewer)

/-! ## Findings -/

/-- A confidence is a number from zero to one. What is no number, or infinite, is none. -/
theorem isConfidence_iff {value : Binary} :
    isConfidence value = true ↔ ∃ q, value.toRat? = some q ∧ 0 ≤ q ∧ q ≤ 1 := by
  have hzero : Numeric.binary32.zero.toRat? = some 0 := by simp [Numeric.Format.zero, Binary.toRat?]
  have hone : (Numeric.binary32.ofNat 1).toRat? = some 1 := by
    have hvalue : Numeric.binary32.ofNat 1 = .finite false 8388608 (-23) := by decide
    rw [hvalue, Binary.toRat?]
    norm_num
  cases hfinite : value.toRat? with
  | none =>
    have hnot : isConfidence value = false := by
      cases value with
      | nan => decide
      | infinite negative => cases negative <;> decide
      | finite => cases hfinite
    simp [hnot]
  | some q =>
    rw [isConfidence, Bool.and_eq_true, Binary.le_iff hzero hfinite, Binary.le_iff hfinite hone]
    simp

/-- The id is not blank, and the confidence is a number from zero to one. -/
structure Finding.WellFormed (f : Finding) : Prop where
  id : ∃ c ∈ f.id.toList, Text.isBlank c = false
  confidence : ∃ q, f.confidence.toRat? = some q ∧ 0 ≤ q ∧ q ≤ 1

theorem Finding.check_iff_wellFormed {f : Finding} : f.check = .ok () ↔ f.WellFormed := by
  have hid : Text.isBlankText f.id = false ↔ ∃ c ∈ f.id.toList, Text.isBlank c = false := by
    simp [Text.isBlankText]
  rw [check_eq_ok_iff, hid, isConfidence_iff]
  exact ⟨fun h => ⟨h.1, h.2⟩, fun h => ⟨h.id, h.confidence⟩⟩

theorem Scan.check_of_mem_ruleFindings {scan : Scan} {r : Rule} (hr : r.check = .ok ()) {f : Finding}
    (hf : f ∈ scan.ruleFindings r) : f.check = .ok () := by
  unfold ruleFindings at hf
  cases hmatcher : r.matcher with
  | lexical pattern =>
    simp only [hmatcher] at hf
    obtain ⟨m, -, rfl⟩ := List.mem_map.mp hf
    obtain ⟨hid, -, -, hconfidence⟩ := Rule.check_eq_ok_iff.mp hr
    exact Finding.check_eq_ok_iff.mpr ⟨hid, hconfidence⟩
  | structural predicate =>
    simp only [hmatcher] at hf
    obtain ⟨c, -, hf⟩ := List.mem_flatMap.mp hf
    unfold structuralFindings at hf
    split at hf
    · have hok := (List.mem_filter.mp hf).2
      cases hcheck : f.check with
      | ok _ => rfl
      | error e =>
        rw [hcheck] at hok
        cases hok
    · cases hf

theorem Scan.check_of_mem_findings {scan : Scan} {reg : Registry} (hreg : reg.WellFormed) {f : Finding}
    (hf : f ∈ scan.findings reg) : f.check = .ok () := by
  obtain ⟨r, hr, hf⟩ := List.mem_flatMap.mp hf
  exact check_of_mem_ruleFindings (hreg.checked r hr) hf

theorem Scan.file_of_mem_findings {file source : String} {unit : Solidity.SourceUnit} {reg : Registry}
    (hreg : ∀ r ∈ reg.rules, r.Standard) {f : Finding} (hf : f ∈ (ofUnit file source unit).findings reg) :
    f.location.file = file := by
  obtain ⟨r, hr, hf⟩ := List.mem_flatMap.mp hf
  obtain ⟨-, -, -, hfile⟩ := signed_of_mem_ruleFindings (hreg r hr).signs hf
  exact hfile (factsInFile_ofUnit file source unit)

/-! ## Proposals -/

namespace Review

theorem isBlankText_proposalId (n : Nat) : Text.isBlankText (proposalId n) = false := by
  have hfirst : Text.isBlank 'A' = false := by decide
  simp [Text.isBlankText, proposalId, hfirst]

theorem becomes_of_mem_findingsOf {ids : Nat → String} {file : String} {proposals : List Proposal} {f : Finding}
    (hf : f ∈ findingsOf ids file proposals) : ∃ p i, p ∈ proposals ∧ Becomes ids file (p, i) f := by
  obtain ⟨⟨p, i⟩, hp, hfinding⟩ := List.mem_filterMap.mp hf
  exact ⟨p, i, List.fst_mem_of_mem_zipIdx hp, becomes_of_finding? hfinding⟩

theorem check_of_mem_findingsOf {ids : Nat → String} (hids : ∀ i, ∃ n, ids i = proposalId n) {file : String}
    {proposals : List Proposal} {f : Finding} (hf : f ∈ findingsOf ids file proposals) : f.check = .ok () := by
  obtain ⟨p, i, -, hbecomes⟩ := becomes_of_mem_findingsOf hf
  obtain ⟨n, hn⟩ := hids i
  have hid : Text.isBlankText f.id = false := by
    rw [hbecomes.id, hn]
    exact isBlankText_proposalId n
  have hconfidence : isConfidence f.confidence = true := by
    rw [hbecomes.marks.2.2]
    decide
  exact Finding.check_eq_ok_iff.mpr ⟨hid, hconfidence⟩

/-- A finding from a reply is in the file of the audit, whether or not that file has a name. -/
theorem file_of_mem_findingsOf {ids : Nat → String} {file : String} {analysis : Analysis} (h : analysis.InFile file)
    {f : Finding} (hf : f ∈ findingsOf ids file analysis.proposals) : f.location.file = file := by
  obtain ⟨p, i, hp, hbecomes⟩ := becomes_of_mem_findingsOf hf
  rw [hbecomes.location]
  simp [h.proposals p hp]

theorem mem_of_mem_merge {outcome : Outcome} {ids : Nat → String} {file : String} {found : List Finding} {f : Finding}
    (hf : f ∈ (outcome.merge ids file found).findings) :
    f ∈ found ∨ ∃ analysis, outcome = .completed analysis ∧ f ∈ findingsOf ids file analysis.proposals := by
  cases outcome with
  | skipped => exact .inl hf
  | failed e => exact .inl hf
  | completed analysis =>
    exact (List.mem_append.mp (List.mem_filter.mp hf).1).imp_right fun hf => ⟨analysis, rfl, hf⟩

theorem check_of_mem_merge {outcome : Outcome} {ids : Nat → String} (hids : ∀ i, ∃ n, ids i = proposalId n)
    {file : String} {found : List Finding} (hfound : ∀ f ∈ found, f.check = .ok ()) :
    ∀ f ∈ (outcome.merge ids file found).findings, f.check = .ok () := by
  intro f hf
  rcases mem_of_mem_merge hf with hf | ⟨analysis, -, hf⟩
  · exact hfound f hf
  · exact check_of_mem_findingsOf hids hf

theorem file_of_mem_merge {outcome : Outcome} {file : String}
    (houtcome : ∀ analysis, outcome = .completed analysis → analysis.InFile file) {found : List Finding}
    (hfound : ∀ f ∈ found, f.location.file = file) (ids : Nat → String) :
    (∀ f ∈ (outcome.merge ids file found).findings, f.location.file = file) ∧
    (∀ g ∈ (outcome.merge ids file found).gas, g.location.file = file) ∧
    ∀ p ∈ (outcome.merge ids file found).practices, p.location.file = file := by
  constructor
  · intro f hf
    rcases mem_of_mem_merge hf with hf | ⟨analysis, hcompleted, hf⟩
    · exact hfound f hf
    · exact file_of_mem_findingsOf (houtcome analysis hcompleted) hf
  · cases outcome with
    | skipped => exact ⟨nofun, nofun⟩
    | failed e => exact ⟨nofun, nofun⟩
    | completed analysis => exact ⟨(houtcome analysis rfl).gas, (houtcome analysis rfl).practices⟩

/-- What the reviewer answers was read from a reply, for the file that it was shown. -/
def Reviewer.ReadsReplies (r : Reviewer) : Prop :=
  ∀ request analysis, r.review request = .answer (.ok analysis) →
    ∃ raw model, readReply raw request.file model = .ok analysis

end Review

/-! ## Reports -/

/-- The ids of proposals are drawn as numbers. -/
def Occasion.Drawn (occasion : Occasion) : Prop := ∀ i, ∃ n, occasion.proposalId i = Review.proposalId n

namespace Auditor

/-- All rules that are evaluated are built in or go by a pattern. -/
def UsesStandardRules (a : Auditor) (options : Options) : Prop :=
  ∀ reg, a.registry.configured options.skip options.custom = .ok reg → ∀ r ∈ reg.rules, r.Standard

theorem of_findings_eq_ok {a : Auditor} {subject : Subject} {options : Options} {found : List Finding}
    (h : a.findings subject options = .ok found) : ∃ unit reg,
      a.registry.configured options.skip options.custom = .ok reg ∧
      found = (Scan.ofUnit a.file subject.source unit).findings reg := by
  unfold findings at h
  cases hunit : Solidity.SourceUnit.ofTree subject.source.toList subject.tree with
  | error e =>
    rw [hunit] at h
    cases h
  | ok unit =>
    rw [hunit] at h
    cases hreg : a.registry.configured options.skip options.custom with
    | error e =>
      rw [hreg] at h
      cases h
    | ok reg =>
      rw [hreg] at h
      cases h
      exact ⟨unit, reg, rfl, rfl⟩

theorem answer_of_outcome {a : Auditor} {subject : Subject} {options : Options} {found : List Finding}
    {analysis : Analysis} (h : a.outcome (a.request? subject options found) = .completed analysis) :
    ∃ r ∈ a.reviewer, r.review ⟨a.file, subject.source, found⟩ = .answer (.ok analysis) := by
  unfold request? at h
  split at h
  · cases hr : a.reviewer with
    | none =>
      rw [hr] at h
      cases h
    | some r =>
      rw [hr, Option.map_some, outcome] at h
      refine ⟨r, rfl, ?_⟩
      split at h
      · cases h
      · next hanswer =>
        cases h
        exact hanswer
      · cases h
      · cases h
  · cases h

theorem inFile_of_outcome {a : Auditor} {subject : Subject} {options : Options} {found : List Finding}
    {analysis : Analysis} (hreplies : ∀ r ∈ a.reviewer, r.ReadsReplies)
    (h : a.outcome (a.request? subject options found) = .completed analysis) : analysis.InFile a.file := by
  obtain ⟨r, hr, hanswer⟩ := answer_of_outcome h
  obtain ⟨raw, model, hread⟩ := hreplies r hr _ _ hanswer
  exact Review.inFile_of_readReply hread

/-- **Everything in a report is well formed.** For every registry that there is, and whatever the predicates of its rules
and the reviewer do, all findings of a report pass the check: their ids are not blank, and their confidences are numbers
from zero to one. If moreover the rules are built in or go by a pattern, and the analyses are read from replies, then all
findings and suggestions are in the file of the audit. -/
theorem report_wellFormed (a : Auditor) (subject : Subject) (options : Options) (occasion : Occasion) (audited : Audited)
    (hreg : a.registry.Obtained) (hdrawn : occasion.Drawn) (hok : a.audit subject options occasion = .ok audited) :
    (∀ f ∈ audited.report.findings, f.check = .ok () ∧ f.WellFormed) ∧
    (a.UsesStandardRules options → (∀ r ∈ a.reviewer, r.ReadsReplies) →
      (∀ f ∈ audited.report.findings, f.location.file = a.file) ∧
      (∀ g ∈ audited.report.gas, g.location.file = a.file) ∧
      ∀ p ∈ audited.report.practices, p.location.file = a.file) := by
  obtain ⟨found, hfound, rfl⟩ := of_audit_eq_ok hok
  obtain ⟨unit, reg, hconfigured, rfl⟩ := of_findings_eq_ok hfound
  have hwellFormed : reg.WellFormed := (hreg.configured hconfigured).wellFormed
  constructor
  · intro f hf
    have hcheck : f.check = .ok () :=
      Review.check_of_mem_merge hdrawn (fun _ => Scan.check_of_mem_findings hwellFormed) f
        ((sortBySeverity_perm _).mem_iff.mp hf)
    exact ⟨hcheck, Finding.check_iff_wellFormed.mp hcheck⟩
  · intro hstandard hreplies
    obtain ⟨hfindings, hgas, hpractices⟩ :=
      Review.file_of_mem_merge (fun _ => inFile_of_outcome hreplies)
        (fun _ => Scan.file_of_mem_findings (hstandard reg hconfigured)) occasion.proposalId
    exact ⟨fun f hf => hfindings f ((sortBySeverity_perm _).mem_iff.mp hf), hgas, hpractices⟩

end Auditor

/-! ## A report with a proposal -/

/-- A reply that proposes one finding, among prose. -/
def proposingReply : String :=
  "Found: \x7b\"additionalVulnerabilities\": [\x7b\"severity\": \"high\", \"location\": \x7b\"line\": 1\x7d\x7d]\x7d"

def overflowRule : Rule := { Catalogue.overflowInfo with matcher := .structural Catalogue.overflow }

/-- An auditor with one built-in rule, whose reviewer always replies so. -/
def proposingAuditor : Auditor :=
  (Auditor.ofRegistry ⟨[overflowRule]⟩).withReviewer
    (some ⟨none, fun request => .answer (Review.readReply proposingReply request.file none)⟩)

/-- Options with a rule by pattern in the place of that rule. -/
def patternOptions : Options :=
  ⟨true, [], [{ Catalogue.overflowInfo with matcher := .lexical ⟨"A", (Pattern.compile "A").getD default⟩ }]⟩

namespace Auditor

theorem findings_proposingAuditor : ∃ found, proposingAuditor.findings emptyContract patternOptions = .ok found ∧
    ((proposingAuditor.outcome (proposingAuditor.request? emptyContract patternOptions found)).merge
      firstOccasion.proposalId proposingAuditor.file found).findings.map (·.id) = ["IO-01", "AI-000000000"] :=
  ⟨_, rfl, by decide +kernel⟩

/-- The pattern occurs in the contract, and the proposal of the reply gets an id and a file. -/
theorem report_wellFormed_proposing : ∃ audited,
    proposingAuditor.audit emptyContract patternOptions firstOccasion = .ok audited ∧
    (audited.report.findings.map (·.id)).Perm ["IO-01", "AI-000000000"] ∧
    (∀ f ∈ audited.report.findings, f.check = .ok () ∧ f.WellFormed) ∧
    ∀ f ∈ audited.report.findings, f.location.file = "contract.sol" := by
  have hrules : Registry.ofRules [overflowRule] = .ok proposingAuditor.registry := rfl
  have hdrawn : firstOccasion.Drawn := fun i => ⟨i, rfl⟩
  have hstandard : proposingAuditor.UsesStandardRules patternOptions := by
    intro reg hconfigured
    obtain ⟨-, rfl⟩ := Registry.of_configured_eq_ok hconfigured
    exact List.forall_mem_singleton.mpr (.inr ⟨_, rfl⟩)
  have hreplies : ∀ r ∈ proposingAuditor.reviewer, r.ReadsReplies := by
    intro r hr request analysis hanswer
    cases hr
    exact ⟨proposingReply, none, Review.Response.answer.inj hanswer⟩
  obtain ⟨found, hfound, hids⟩ := findings_proposingAuditor
  have hok := proposingAuditor.audit_eq emptyContract patternOptions firstOccasion
  rw [hfound] at hok
  obtain ⟨hwellFormed, hfile⟩ := report_wellFormed _ _ _ _ _ (.ofRules hrules) hdrawn hok
  refine ⟨_, hok, ?_, hwellFormed, (hfile hstandard hreplies).1⟩
  rw [findings_conclude, ← hids]
  exact (sortBySeverity_perm _).map _

end Auditor

end ContractAudit
