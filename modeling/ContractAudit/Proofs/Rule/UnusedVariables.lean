import ContractAudit.Proofs.Facts.References
import ContractAudit.Proofs.Rule.Catalogue
import ContractAudit.Rule.Catalogue

/-!
# What the rule on unused variables reports

The rule looks a state variable up among the identifiers that the facts of a contract name. These are exactly the ones
that stand somewhere in its code, so the rule reports a variable exactly if it is worth a report and no code mentions it
(`structuralFindings_unusedVariable`). `body_facts_exact` says this together with what else the facts of a contract take
from bodies.
-/

namespace ContractAudit

open Facts Solidity

/-- A variable that is neither constant nor public nor marked by an underscore, and whose name stands nowhere in the
code of the contract. -/
structure Facts.NamedVariable.Unused (members : List Member) (v : NamedVariable) : Prop where
  varies : v.declaration.constant = false
  hidden : v.declaration.visibility ≠ some "public"
  unmarked : v.name.toList.head? ≠ some '_'
  unmentioned : ∀ p, ¬ OccursIn members (.identifier p v.name)

/-- The finding of the rule on a variable. -/
def unusedFinding (file contract : String) (v : NamedVariable) : Finding :=
  { Catalogue.unusedVariableTemplate.finding ("State variable \"" ++ v.name ++ "\" is never used")
      ⟨file, v.declaration.pos.line, v.declaration.pos.column, none, some contract⟩ with
    snippet := renderType v.declaration.type ++ " " ++ v.declaration.visibility.getD "internal" ++ " " ++ v.name ++ ";" }

theorem startsWith_underscore {name : String} : Text.startsWith name "_" = true ↔ name.toList.head? = some '_' := by
  have hmark : "_".toList = ['_'] := by decide
  rw [Text.startsWith, hmark]
  cases name.toList with
  | nil => decide
  | cons c cs =>
    constructor
    · intro h
      have hc : '_' = c := by simpa using h
      rw [← hc]
      rfl
    · intro h
      obtain rfl := Option.some.inj h
      simp

theorem unused_iff {members : List Member} {v : NamedVariable} : v.Unused members ↔
    v.declaration.constant = false ∧ v.declaration.visibility ≠ some "public" ∧ v.name.toList.head? ≠ some '_' ∧
      v.name ∉ identifiers (members.flatMap codeWalk) := by
  rw [mem_identifiers_codeWalk, not_exists]
  constructor
  · rintro ⟨hvaries, hhidden, hunmarked, hunmentioned⟩
    exact ⟨hvaries, hhidden, hunmarked, hunmentioned⟩
  · rintro ⟨hvaries, hhidden, hunmarked, hunmentioned⟩
    exact ⟨hvaries, hhidden, hunmarked, hunmentioned⟩

instance (members : List Member) (v : NamedVariable) : Decidable (v.Unused members) := decidable_of_iff' _ unused_iff

theorem isUnused_iff {file : String} {c : ContractDef} {facts : ContractFacts} (h : ofContract? file c = some facts)
    (v : NamedVariable) :
    Catalogue.isUnused facts (Scope.variableFacts ⟨file, facts.name⟩ v) = true ↔ v.Unused c.members := by
  have hvisibility : v.declaration.visibility.getD "internal" ≠ "public" ↔ v.declaration.visibility ≠ some "public" := by
    cases v.declaration.visibility <;> simp
  have hmentioned : v.name ∈ facts.identifiers ↔ v.name ∈ identifiers (c.members.flatMap codeWalk) := by
    rw [mem_identifiers h, mem_identifiers_codeWalk]
  have hmarked : Text.startsWith v.name "_" = false ↔ v.name.toList.head? ≠ some '_' := by
    rw [Bool.eq_false_iff, ne_eq, startsWith_underscore]
  rw [unused_iff, ← hvisibility, ← hmentioned, ← hmarked]
  simp [Catalogue.isUnused, Scope.variableFacts, and_assoc]

theorem structuralFindings_unusedVariable {file : String} {c : ContractDef} {facts : ContractFacts} (scan : Scan)
    (h : ofContract? file c = some facts) : scan.structuralFindings Catalogue.unusedVariable facts =
      ((namedVariables c.members).filter fun v => v.Unused c.members).map (unusedFinding file facts.name) := by
  have hfound : Catalogue.unusedVariable scan.unit facts = .ok ((facts.stateVariables.filter
      (Catalogue.isUnused facts)).map fun v =>
        { Catalogue.unusedVariableTemplate.finding ("State variable \"" ++ v.name ++ "\" is never used") v.location with
          snippet := v.type ++ " " ++ v.visibility ++ " " ++ v.name ++ ";" }) := rfl
  rw [Scan.structuralFindings_eq hfound]
  · rw [stateVariables_of_ofContract? h, List.filter_map, List.map_map]
    congr 1
    apply List.filter_congr
    intro v _
    rw [Bool.eq_iff_iff, decide_eq_true_iff, ← isUnused_iff h]
    rfl
  · intro f hf
    obtain ⟨v, -, rfl⟩ := List.mem_map.mp hf
    exact Finding.check_eq_ok Catalogue.unusedVariableInfo rfl rfl (by decide)

/-! ## Facts from bodies -/

/-- What the facts of a contract take from bodies and initial values is what stands there. -/
structure BodyFactsExact (scan : Scan) (c : ContractDef) (facts : ContractFacts) : Prop where
  /-- The names that are referred to. -/
  identifiers : ∀ name, name ∈ facts.identifiers ↔ ∃ p, OccursIn c.members (.identifier p name)
  /-- The names that are called. -/
  calledNames : ∀ name, name ∈ facts.calledNames ↔
    ∃ p q options arguments, OccursIn c.members (.call p (.identifier q name) options arguments)
  called_subset : facts.calledNames ⊆ facts.identifiers
  /-- The parameters of each function that its own body compares with the zero address. -/
  zeroChecked : List.Forall₂ (fun f info => info.name = f.name ∧ ∀ name, name ∈ info.zeroChecked ↔
      (∃ slot ∈ f.declaration.parameters, slot.name = some name) ∧ name ≠ "" ∧
        ∃ e, Contains (.sequence f.statements) (.expr e) ∧ ComparesWithZero name e)
    (namedFunctions c.members) facts.functions
  /-- One finding for every variable that is not used. -/
  unused : scan.structuralFindings Catalogue.unusedVariable facts =
    ((namedVariables c.members).filter fun v => v.Unused c.members).map (unusedFinding scan.file facts.name)

/-- **The facts of a contract name exactly what stands in its code.** Identifiers and called names are gathered from
everywhere in the bodies of functions and modifiers and in initial values, comparisons with the zero address from
everywhere in the body of a function, and the rule on unused variables reports the variables that no code mentions. -/
theorem body_facts_exact (file source : String) (unit : SourceUnit) :
    List.Forall₂ (BodyFactsExact (Scan.ofUnit file source unit)) (unit.contracts.filter (·.name.isSome))
      (ofUnit file unit) := by
  refine forall₂_ofUnit unit fun c facts h => ?_
  refine ⟨fun _ => mem_identifiers h, fun _ => mem_calledNames h, calledNames_subset h, ?_,
    structuralFindings_unusedVariable _ h⟩
  obtain ⟨-, hfunctions, -⟩ := of_ofContract? h
  rw [hfunctions, List.forall₂_map_right_iff, List.forall₂_same]
  intro f _
  exact ⟨rfl, fun _ => Scope.mem_zeroChecked _ f⟩

end ContractAudit
