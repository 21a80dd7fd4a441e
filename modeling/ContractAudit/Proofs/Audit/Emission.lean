import ContractAudit.Proofs.Audit.Conservation
import ContractAudit.Proofs.Rule.Catalogue
import ContractAudit.Proofs.Rule.Lexical
import ContractAudit.Proofs.Rule.Registry

/-!
# The order in which built-in rules report

A scan goes through its rules, and through the matches of a pattern or the contracts of the file for each of them
(`Scan.lists_ruleFindings`). The built-in rules are listed from the most to the least severe, and every finding has the
severity of its rule, though a structural rule states it twice. So the findings come ranked, whatever rules are skipped
(`Scan.pairwise_findings`), and a report that goes by them alone lists them as they come.
-/

namespace ContractAudit

open Pattern (occurrences)
open Solidity (SourceUnit)
open Review (Analysis Outcome)

namespace Scan

/-- `Lists scan r block`: the findings report the matches of the rule in the order of the text, or what its predicate
says of the contracts in the order of the contracts. -/
inductive Lists (scan : Scan) (r : Rule) : List Finding → Prop
  | matched {pattern : Pattern} {block : List Finding} (hmatcher : r.matcher = .lexical pattern)
    (hordered : (occurrences (pattern.program.findAll scan.source)).Pairwise fun m n => m.start < n.start)
    (hblock : List.Forall₂ scan.Reports (occurrences (pattern.program.findAll scan.source)) block) : Lists scan r block
  | evaluated {predicate : Predicate} {parts : List (List Finding)} (hmatcher : r.matcher = .structural predicate)
    (hparts : List.Forall₂ (fun c part => predicate scan.unit c = .ok part) scan.contracts parts) :
    Lists scan r parts.flatten

/-- The findings come rule by rule, signed by the rule and in the order of its places. -/
def EmitsInOrder (scan : Scan) (rules : List Rule) (findings : List Finding) : Prop :=
  ∃ blocks, findings = blocks.flatten ∧
    List.Forall₂ (fun r block => scan.Lists r block ∧ ∀ f ∈ block, f.id = r.id ∧ f.severity = r.severity) rules blocks

theorem structuralFindings_of_signs (scan : Scan) {r : Rule} (hcheck : r.check = .ok ()) {predicate : Predicate}
    (hsigns : predicate.Signs r.toRuleInfo) (c : Facts.ContractFacts) :
    predicate scan.unit c = .ok (scan.structuralFindings predicate c) := by
  obtain ⟨hid, -, -, hconfidence⟩ := Rule.check_eq_ok_iff.mp hcheck
  obtain ⟨findings, hok, hsigned⟩ := hsigns scan.unit c
  rw [hok, structuralFindings_eq hok]
  intro f hf
  exact Finding.check_eq_ok r.toRuleInfo (hsigned f hf).id (hsigned f hf).confidence ⟨hid, hconfidence⟩

theorem lists_ruleFindings (scan : Scan) {r : Rule} (hcheck : r.check = .ok ()) (hsigns : r.Signs) :
    scan.Lists r (scan.ruleFindings r) := by
  cases hmatcher : r.matcher with
  | lexical pattern =>
    have hfound := pattern.program.leftToRight_findAll scan.source
    have hblock : scan.ruleFindings r = scan.lexicalFindings r.toRuleInfo (pattern.program.findAll scan.source) := by
      rw [ruleFindings, hmatcher]
    rw [hblock]
    exact .matched hmatcher hfound.pairwise_occurrences (scan.forall₂_lexicalFindings r.toRuleInfo hfound)
  | structural predicate =>
    rw [Rule.Signs, hmatcher] at hsigns
    have hflatten : scan.ruleFindings r = (scan.contracts.map (scan.structuralFindings predicate)).flatten := by
      rw [ruleFindings, hmatcher]
      exact List.flatMap_def
    rw [hflatten]
    apply Lists.evaluated hmatcher
    rw [List.forall₂_map_right_iff, List.forall₂_same]
    intro c _
    exact scan.structuralFindings_of_signs hcheck hsigns c

theorem emitsInOrder_findings (scan : Scan) {reg : Registry} (hreg : reg.WellFormed)
    (hsigns : ∀ r ∈ reg.rules, r.Signs) : scan.EmitsInOrder reg.rules (scan.findings reg) := by
  refine ⟨reg.rules.map scan.ruleFindings, List.flatMap_def, ?_⟩
  rw [List.forall₂_map_right_iff, List.forall₂_same]
  intro r hr
  refine ⟨scan.lists_ruleFindings (hreg.checked r hr) (hsigns r hr), ?_⟩
  intro f hf
  obtain ⟨hid, hseverity, -⟩ := signed_of_mem_ruleFindings (hsigns r hr) hf
  exact ⟨hid, hseverity⟩

theorem pairwise_findings (scan : Scan) {reg : Registry} (hsigns : ∀ r ∈ reg.rules, r.Signs)
    (hranked : reg.rules.Pairwise fun r s => r.severity.rank ≤ s.severity.rank) :
    (scan.findings reg).Pairwise fun f g => f.severity.rank ≤ g.severity.rank := by
  have hseverity : ∀ r ∈ reg.rules, ∀ f ∈ scan.ruleFindings r, f.severity = r.severity :=
    fun r hr f hf => (signed_of_mem_ruleFindings (hsigns r hr) hf).2.1
  rw [findings, List.pairwise_flatMap]
  constructor
  · intro r hr
    apply List.pairwise_of_forall_mem_list
    intro f hf g hg
    have hsame : f.severity = g.severity := (hseverity r hr f hf).trans (hseverity r hr g hg).symm
    exact Nat.le_of_eq (congrArg Severity.rank hsame)
  · refine hranked.imp_of_mem ?_
    intro r s hr hs hle f hf g hg
    rw [hseverity r hr f hf, hseverity s hs g hg]
    exact hle

end Scan

/-! ## The built-in rules -/

theorem Catalogue.pairwise_rules {compiler : Pattern.Compiler} {rules : List Rule}
    (h : Catalogue.rules compiler = .ok rules) : rules.Pairwise fun r s => r.severity.rank ≤ s.severity.rank := by
  have hranks : (drafts.map (·.info)).Pairwise fun r s => r.severity.rank ≤ s.severity.rank := by decide
  rw [← map_info (rules_eq_ok_iff.mp h), List.pairwise_map] at hranks
  exact hranks

theorem Registry.configured_skipping (reg : Registry) (skip : List String) :
    ∃ rest, reg.configured skip [] = .ok rest ∧ rest.rules = reg.rules.filter fun r => r.id ∉ skip := by
  refine ⟨_, configured_eq reg skip [], ?_⟩
  apply List.filter_congr
  intro r _
  rw [List.contains_eq_mem, decide_not]

/-! ## Reports -/

theorem Review.findings_merge {outcome : Outcome} (h : ∀ analysis, outcome ≠ .completed analysis) (ids : Nat → String)
    (file : String) (found : List Finding) : (outcome.merge ids file found).findings = found := by
  cases outcome with
  | skipped => rfl
  | failed e => rfl
  | completed analysis => exact absurd rfl (h analysis)

theorem Auditor.findings_eq {a : Auditor} {subject : Subject} {options : Options} {unit : SourceUnit} {reg : Registry}
    (hunit : SourceUnit.ofTree subject.source.toList subject.tree = .ok unit)
    (hreg : a.registry.configured options.skip options.custom = .ok reg) :
    a.findings subject options = .ok ((Scan.ofUnit a.file subject.source unit).findings reg) := by
  unfold findings
  rw [hunit, hreg]
  rfl

/-- **The findings of built-in rules come ranked.** There is a built-in registry, and whatever its patterns are compiled
to and whatever rules are skipped, the others are evaluated in the order of the catalogue. Their findings come rule by
rule, each with the severity of its rule, and for one rule by matches or by contracts; they are ranked as they come, so
that ranking them once more changes nothing. A report without a completed review lists exactly these findings in this
order. -/
theorem builtin_findings_ranked (file source : String) (unit : SourceUnit) (skip : List String) :
    (∃ builtin, Registry.builtin Pattern.compile = .ok builtin) ∧
    ∀ (compiler : Pattern.Compiler) (builtin : Registry), Registry.builtin compiler = .ok builtin →
      Catalogue.rules compiler = .ok builtin.rules ∧
      ∃ reg, builtin.configured skip [] = .ok reg ∧
        reg.rules = builtin.rules.filter (fun r => r.id ∉ skip) ∧
        (Scan.ofUnit file source unit).EmitsInOrder reg.rules ((Scan.ofUnit file source unit).findings reg) ∧
        ((Scan.ofUnit file source unit).findings reg).Pairwise (fun f g => f.severity.rank ≤ g.severity.rank) ∧
        sortBySeverity ((Scan.ofUnit file source unit).findings reg) = (Scan.ofUnit file source unit).findings reg ∧
        ∀ (a : Auditor) (name : String) (tree : Tree.Node) (review : Bool) (occasion : Occasion),
          a.registry = builtin → a.file = file → SourceUnit.ofTree source.toList tree = .ok unit →
          (∀ analysis, a.outcome (a.request? ⟨name, source, tree⟩ ⟨review, skip, []⟩
            ((Scan.ofUnit file source unit).findings reg)) ≠ .completed analysis) →
          ∃ audited, a.audit ⟨name, source, tree⟩ ⟨review, skip, []⟩ occasion = .ok audited ∧
            audited.report.findings = (Scan.ofUnit file source unit).findings reg := by
  refine ⟨Registry.exists_builtin, fun compiler builtin hbuiltin => ?_⟩
  have hcatalogue := Registry.builtin_eq_ok_iff.mp hbuiltin
  obtain ⟨reg, hconfigured, hrules⟩ := builtin.configured_skipping skip
  have hkept : reg.rules.Sublist builtin.rules := hrules ▸ List.filter_sublist
  have hsigns : ∀ r ∈ reg.rules, r.Signs := fun r hr => Catalogue.signs_of_mem hcatalogue (hkept.subset hr)
  have hwellFormed : reg.WellFormed := (Registry.WellFormed.builtin hbuiltin).configured hconfigured
  have hranked := (Scan.ofUnit file source unit).pairwise_findings hsigns
    ((Catalogue.pairwise_rules hcatalogue).sublist hkept)
  have hsorted := sortBySeverity_of_pairwise hranked
  refine ⟨hcatalogue, reg, hconfigured, hrules, Scan.emitsInOrder_findings _ hwellFormed hsigns, hranked, hsorted, ?_⟩
  rintro a name tree review occasion rfl rfl hunit hreview
  have hfindings : a.findings ⟨name, source, tree⟩ ⟨review, skip, []⟩ =
      .ok ((Scan.ofUnit a.file source unit).findings reg) := Auditor.findings_eq hunit hconfigured
  refine ⟨_, by rw [Auditor.audit_eq, hfindings]; rfl, ?_⟩
  rw [findings_conclude, Review.findings_merge hreview, hsorted]

end ContractAudit
