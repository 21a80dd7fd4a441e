import ContractAudit.Proofs.Rule.Catalogue
import ContractAudit.Proofs.Rule.Registry
import ContractAudit.Review.Merge

/-!
# To skip a rule is to discard its findings

A rule that signs its findings is left out of a registry with the same effect as its findings are left out of the result
(`Scan.findings_without`). So skip lists and dismissals by a review agree (`Scan.skipping_discards`).
-/

namespace ContractAudit

open Review (Analysis Outcome)

theorem Registry.standard_of_mem_install {custom rules : List Rule} (hcustom : ∀ r ∈ custom, r.Standard)
    (hrules : ∀ r ∈ rules, r.Standard) : ∀ r ∈ install custom rules, r.Standard := by
  intro r hr
  rcases mem_install hr with hr | hr
  · exact hcustom r hr
  · exact hrules r hr

namespace Scan

theorem filter_ruleFindings (scan : Scan) {r : Rule} (hr : r.Signs) (skip : List String) :
    (scan.ruleFindings r).filter (fun f => !skip.contains f.id) =
      if skip.contains r.id then [] else scan.ruleFindings r := by
  have hid : ∀ f ∈ scan.ruleFindings r, f.id = r.id := fun f hf => (signed_of_mem_ruleFindings hr hf).1
  split
  · next hskip =>
    refine List.filter_eq_nil_iff.mpr fun f hf => ?_
    rw [hid f hf, hskip]
    exact Bool.false_ne_true
  · next hskip =>
    refine List.filter_eq_self.mpr fun f hf => ?_
    rw [hid f hf, Bool.eq_false_iff.mpr hskip]
    rfl

theorem findings_without (scan : Scan) (skip : List String) {rules : List Rule} (h : ∀ r ∈ rules, r.Signs) :
    scan.findings ⟨Registry.without skip rules⟩ =
      (scan.findings ⟨rules⟩).filter fun f => !skip.contains f.id := by
  simp only [findings, Registry.without]
  induction rules with
  | nil => rfl
  | cons r rules ih =>
    obtain ⟨hr, hrules⟩ := List.forall_mem_cons.mp h
    rw [List.flatMap_cons, List.filter_append, filter_ruleFindings scan hr, ← ih hrules, List.filter_cons]
    cases skip.contains r.id <;> rfl

/-- **To skip a rule is to discard its findings.** If all rules are built in or go by a pattern, also those that replace
others, then a registry that skips some ids finds what the registry that skips none finds, less the findings of those
ids and in the same order. That is what remains of the findings of all rules in a review that dismisses those ids; behind
it stand the proposals of the review. Which ids are skipped has no influence on whether the rules can be installed. -/
theorem skipping_discards (scan : Scan) (reg : Registry) (skip : List String) (custom : List Rule)
    (hreg : ∀ r ∈ reg.rules, r.Standard) (hcustom : ∀ r ∈ custom, r.Standard) :
    (∃ e, reg.configured [] custom = .error e ∧ reg.configured skip custom = .error e) ∨
    ∃ all rest, reg.configured [] custom = .ok all ∧ reg.configured skip custom = .ok rest ∧
      scan.findings rest = (scan.findings all).filter (·.id ∉ skip) ∧
      ∀ (analysis : Analysis) (ids : Nat → String) (file : String), analysis.dismissed = skip →
        ((Outcome.completed analysis).merge ids file (scan.findings all)).findings =
          scan.findings rest ++ (Review.findingsOf ids file analysis.proposals).filter (·.id ∉ skip) := by
  have hsigns : ∀ r ∈ Registry.install custom reg.rules, r.Signs := fun r hr =>
    (Registry.standard_of_mem_install hcustom hreg r hr).signs
  have hwithout := scan.findings_without skip hsigns
  have hall : Registry.without [] (Registry.install custom reg.rules) = Registry.install custom reg.rules :=
    List.filter_eq_self.mpr fun _ _ => rfl
  rw [Registry.configured_eq, Registry.configured_eq, hall]
  cases Registry.checkRules [] custom with
  | error e => exact .inl ⟨e, rfl, rfl⟩
  | ok _ =>
    refine .inr ⟨_, _, rfl, rfl, ?_, ?_⟩
    · simpa using hwithout
    · rintro analysis ids file rfl
      simp only [Outcome.merge, Analysis.merge, List.filter_append, hwithout, List.contains_eq_mem, decide_not]

/-- A rule by pattern in the place of the built-in rule for reentrancy. -/
def plainCallRule : Rule :=
  { Catalogue.reentrancyInfo with matcher := .lexical ⟨"call", (Pattern.compile "call").getD default⟩ }

def plainCall : Scan := ⟨"A.sol", "a.call()".toList, ⟨[]⟩, []⟩

/-- The replacement finds a call, and this finding is discarded with its id. -/
theorem skipping_discards_replacement : ∃ builtin all rest,
    Registry.builtin Pattern.compile = .ok builtin ∧
    builtin.configured [] [plainCallRule] = .ok all ∧
    builtin.configured ["RE-01"] [plainCallRule] = .ok rest ∧
    (∃ f ∈ plainCall.findings all, f.id = "RE-01") ∧
    plainCall.findings rest = (plainCall.findings all).filter (·.id ∉ ["RE-01"]) := by
  obtain ⟨builtin, hbuiltin⟩ := Registry.exists_builtin
  have hrules := Registry.builtin_eq_ok_iff.mp hbuiltin
  have hstandard : plainCallRule.Standard := .inr ⟨_, rfl⟩
  have hcheck : Registry.checkRules [] [plainCallRule] = .ok () := rfl
  obtain ⟨e, he, -⟩ | ⟨all, rest, hall, hrest, hfindings, -⟩ :=
    skipping_discards plainCall builtin ["RE-01"] [plainCallRule] (fun r hr => .inl ⟨_, _, hrules, hr⟩)
      (List.forall_mem_singleton.mpr hstandard)
  · rw [Registry.configured_eq, hcheck] at he
    cases he
  · refine ⟨builtin, all, rest, hbuiltin, hall, hrest, ?_, hfindings⟩
    obtain ⟨-, rfl⟩ := Registry.of_configured_eq_ok hall
    obtain ⟨f, hf⟩ := List.exists_mem_of_length_pos (l := plainCall.ruleFindings plainCallRule) (by decide +kernel)
    obtain ⟨hid, -⟩ := signed_of_mem_ruleFindings hstandard.signs hf
    refine ⟨f, List.mem_flatMap.mpr ⟨plainCallRule, ?_, hf⟩, hid⟩
    exact List.mem_filter.mpr ⟨Registry.mem_put_self plainCallRule builtin.rules, rfl⟩

end Scan

end ContractAudit
