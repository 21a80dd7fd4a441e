import ContractAudit.Proofs.Rule.Catalogue
import ContractAudit.Proofs.Solidity.Version
import ContractAudit.Rule.Catalogue.Arithmetic

/-!
# When the rule on arithmetic overlooks a compiler

The rule reports a contract if the lowest version of the compiler pragma lacks checked arithmetic. `overflow_exact` says
for which pragmas that misses an older compiler which the pragma admits: an alternative of upper bounds alone counts for
nothing once another alternative has a lower bound.
-/

namespace ContractAudit

open Facts (ContractFacts)
open Solidity

/-- The rule fires once for a contract. -/
def OverflowReported (scan : Scan) (facts : ContractFacts) : Prop :=
  ∃ finding, scan.structuralFindings Catalogue.overflow facts = [finding] ∧ finding.id = "IO-01" ∧
    finding.location.contract = some facts.name

theorem overflowReported_iff {scan : Scan} {pragma : Pragma} {l : Version} (facts : ContractFacts)
    (hpragma : scan.unit.compilerPragma? = some pragma) (hlowest : Version.lowest? pragma.value = some l) :
    OverflowReported scan facts ↔ l.hasCheckedArithmetic = false := by
  cases hchecked : l.hasCheckedArithmetic with
  | true =>
    have hfound : Catalogue.overflow scan.unit facts = .ok [] := by
      simp [Catalogue.overflow, Catalogue.uncheckedCompiler?, hpragma, hlowest, Option.filter, hchecked]
    simp [OverflowReported, Scan.structuralFindings_eq hfound (by simp)]
  | false =>
    have hcompiler : Catalogue.uncheckedCompiler? scan.unit = some (pragma, l) := by
      simp [Catalogue.uncheckedCompiler?, hpragma, hlowest, Option.filter, hchecked]
    have hfound : ∃ finding, Catalogue.overflow scan.unit facts = .ok [finding] ∧ finding.check = .ok () ∧
        finding.id = "IO-01" ∧ finding.location.contract = some facts.name := by
      simp only [Catalogue.overflow, hcompiler]
      exact ⟨_, rfl, Finding.check_eq_ok Catalogue.overflowInfo rfl rfl (by decide), rfl, rfl⟩
    obtain ⟨finding, hok, hcheck, hid, hcontract⟩ := hfound
    exact ⟨fun _ => rfl, fun _ => ⟨finding, Scan.structuralFindings_eq hok (by simpa using hcheck), hid, hcontract⟩⟩

/-- **When a compiler is overlooked.** The lowest version of a constraint is a lower bound of the admitted versions
unless an alternative is open below while lower bounds elsewhere all exceed `0.0.0`. The rule reports every contract of
a file whose pragma admits a compiler without checked arithmetic unless an alternative is open below while there are
lower bounds and all have checked arithmetic. -/
theorem overflow_exact (constraint : String) (alternatives : Constraint)
    (h : ConstraintText alternatives constraint.toList) :
    ((∀ v, alternatives.Admits v → ∃ l, Version.lowest? constraint = some l ∧ l.le v = true) ↔
      (alternatives.OpenBelow → alternatives.lowerBounds = [] ∨ .zero ∈ alternatives.lowerBounds)) ∧
    ∀ (scan : Scan) (pragma : Pragma) (facts : ContractFacts), scan.unit.compilerPragma? = some pragma →
      pragma.value = constraint →
      (((∃ v, alternatives.Admits v ∧ v.hasCheckedArithmetic = false) → OverflowReported scan facts) ↔
        ¬ (alternatives.OpenBelow ∧ alternatives.lowerBounds ≠ [] ∧
          ∀ b ∈ alternatives.lowerBounds, b.hasCheckedArithmetic = true)) := by
  refine ⟨lowest?_le_admitted_iff h, fun scan pragma facts hpragma hvalue => ?_⟩
  obtain ⟨l, hl, -⟩ := lowest?_text h
  rw [overflowReported_iff facts hpragma (hvalue ▸ hl)]
  exact unchecked_admitted_iff h hl

/-- A file with a compiler pragma and one contract. -/
def fileWithPragma (constraint : String) : SourceUnit where
  items := [
    .pragma ⟨"solidity", constraint, ⟨1, 0⟩⟩,
    .contract
      { kind := .contract, name := some "C", bases := [], members := [], pos := ⟨2, 0⟩, start := 40, stop := 60 }]

theorem blank_space : ∀ x ∈ [' '], Text.isBlank x = true := List.forall_mem_singleton.mpr (by decide)

/-- A range of old compilers beside a recent one. -/
def oldRange : Constraint := [[⟨.atLeast, 0, 4, 0⟩, ⟨.less, 0, 6, 0⟩], [⟨.caret, 0, 8, 0⟩]]

theorem oldRange_text : ConstraintText oldRange ">=0.4.0 <0.6.0 || ^0.8.0".toList := by
  have hpieces : ">=0.4.0 <0.6.0 || ^0.8.0".toList =
      ([] ++ ((Operator.atLeast.mark ++ ['0', '.', '4', '.', '0']) ++ [' '] ++
        (Operator.less.mark ++ ['0', '.', '6', '.', '0'])) ++ [' ']) ++ ['|', '|'] ++
      ([' '] ++ (Operator.caret.mark ++ ['0', '.', '8', '.', '0']) ++ []) := by decide
  rw [hpieces]
  refine .more ⟨_, _, _, by simp, blank_space, ?_, rfl⟩ (.last ⟨_, _, _, blank_space, by simp, ?_, rfl⟩)
  · exact .more (.ofDigits rfl rfl rfl rfl) blank_space (by simp) (.last (.ofDigits rfl rfl rfl rfl))
  · exact .last (.ofDigits rfl rfl rfl rfl)

/-- The lower bound of the range decides, and the rule reports the contract. -/
theorem overflow_oldRange : ConstraintText oldRange ">=0.4.0 <0.6.0 || ^0.8.0".toList ∧
    (∀ v, oldRange.Admits v → ∃ l, Version.lowest? ">=0.4.0 <0.6.0 || ^0.8.0" = some l ∧ l.le v = true) ∧
    ∃ facts, Facts.ofUnit "contract.sol" (fileWithPragma ">=0.4.0 <0.6.0 || ^0.8.0") = [facts] ∧
      OverflowReported (Scan.ofUnit "contract.sol" "" (fileWithPragma ">=0.4.0 <0.6.0 || ^0.8.0")) facts := by
  obtain ⟨hlowest, hrule⟩ := overflow_exact _ _ oldRange_text
  refine ⟨oldRange_text, hlowest.mpr fun hopen => absurd hopen (by decide), _, rfl, ?_⟩
  exact (hrule _ _ _ rfl rfl).mpr (fun hmissed => absurd hmissed.1 (by decide)) ⟨⟨0, 5, 0⟩, by decide, by decide⟩

/-- All compilers before a version, or all from another one on. -/
def oldOrNew : Constraint := [[⟨.less, 0, 5, 0⟩], [⟨.atLeast, 0, 8, 0⟩]]

theorem oldOrNew_text : ConstraintText oldOrNew "<0.5.0 || >=0.8.0".toList := by
  have hpieces : "<0.5.0 || >=0.8.0".toList =
      ([] ++ (Operator.less.mark ++ ['0', '.', '5', '.', '0']) ++ [' ']) ++ ['|', '|'] ++
      ([' '] ++ (Operator.atLeast.mark ++ ['0', '.', '8', '.', '0']) ++ []) := by decide
  rw [hpieces]
  refine .more ⟨_, _, _, by simp, blank_space, ?_, rfl⟩ (.last ⟨_, _, _, blank_space, by simp, ?_, rfl⟩)
  · exact .last (.ofDigits rfl rfl rfl rfl)
  · exact .last (.ofDigits rfl rfl rfl rfl)

/-- Version 0.4.0 is admitted, but the lowest version is 0.8.0 and the rule is silent. -/
theorem overflow_overlooks_old : ConstraintText oldOrNew "<0.5.0 || >=0.8.0".toList ∧ oldOrNew.Admits ⟨0, 4, 0⟩ ∧
    (¬ ∃ l, Version.lowest? "<0.5.0 || >=0.8.0" = some l ∧ l.le ⟨0, 4, 0⟩ = true) ∧
    ∃ facts, Facts.ofUnit "contract.sol" (fileWithPragma "<0.5.0 || >=0.8.0") = [facts] ∧
      (Scan.ofUnit "contract.sol" "" (fileWithPragma "<0.5.0 || >=0.8.0")).structuralFindings Catalogue.overflow facts =
        [] := by
  refine ⟨oldOrNew_text, by decide, ?_, _, rfl, by decide⟩
  have hlowest : Version.lowest? "<0.5.0 || >=0.8.0" = some ⟨0, 8, 0⟩ := by decide
  rintro ⟨l, hl, hle⟩
  obtain rfl := Option.some.inj (hlowest.symm.trans hl)
  exact absurd hle (by decide)

end ContractAudit
