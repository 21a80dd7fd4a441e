import ContractAudit.Proofs.Facts.Contract
import ContractAudit.Proofs.Facts.Events
import ContractAudit.Proofs.Rule.Catalogue
import ContractAudit.Rule.Catalogue

/-!
# What the rule on missing events reports

The rule asks the facts of a function whether it emits an event. The facts know the events outside expressions only, so
a function is reported although it emits if all its events stand below an expression. `events_exact` says so of the
events of a body and of the rule, and says when neither overlooks an event.
-/

namespace ContractAudit

open Facts Solidity

/-- A function with a body and a chosen name, which may change the state and is not meant for internal use. -/
def Facts.NamedFunction.shouldEmit (f : NamedFunction) : Bool :=
  f.declaration.body.isSome && !(["view", "pure", "constant"].any (f.declaration.mutability == some ·)) &&
    !Text.startsWith f.name "_" && !Catalogue.hasFixedName f.name

/-- Whatever the function emits, it emits inside an expression. -/
def Facts.NamedFunction.Silent (f : NamedFunction) : Prop :=
  ∀ name path, EmittedAt f.statements path name → Step.carried ∈ path

/-- The finding of the rule on a function. -/
def missingEventFinding (file contract : String) (f : NamedFunction) : Finding :=
  { Catalogue.missingEventTemplate.finding
      ("Function \"" ++ f.name ++ "\" modifies state but may not emit events")
      ⟨file, f.declaration.pos.line, f.declaration.pos.column, some f.name, some contract⟩ with
    snippet := "event " ++ Catalogue.capitalize f.name ++ "(...);" }

theorem emits_function (scope : Scope) (f : NamedFunction) :
    (scope.function f.declaration f.name).emits = emittedEvents ⟨⟨0, 0⟩, f.statements⟩ := by
  unfold NamedFunction.statements Scope.function
  cases f.declaration.body <;> rfl

theorem silent_iff (scope : Scope) (f : NamedFunction) :
    f.Silent ↔ (scope.function f.declaration f.name).emits.isEmpty = true := by
  rw [emits_function, List.isEmpty_iff, List.eq_nil_iff_forall_not_mem]
  simp only [mem_emittedEvents]
  constructor
  · rintro hsilent name ⟨path, hemitted, hfree⟩
    exact hfree (hsilent name path hemitted)
  · intro hnone name path hemitted
    by_contra hfree
    exact hnone name ⟨path, hemitted, hfree⟩

instance (f : NamedFunction) : Decidable f.Silent := decidable_of_iff' _ (silent_iff ⟨"", ""⟩ f)

theorem isReadOnly_function (scope : Scope) (f : NamedFunction) :
    (scope.function f.declaration f.name).isReadOnly =
      ["view", "pure", "constant"].any (f.declaration.mutability == some ·) := by
  have hmutability : (scope.function f.declaration f.name).mutability = mutabilityName f.declaration.mutability := rfl
  rw [FunctionFacts.isReadOnly, hmutability]
  cases f.declaration.mutability with
  | none => rfl
  | some name =>
    by_cases hname : name = "constant"
    · subst hname
      rfl
    · have hkept : mutabilityName (some name) = name := by simp [mutabilityName]
      simp [hkept, beq_false_of_ne hname]

theorem structuralFindings_missingEvent {file : String} {c : ContractDef} {facts : ContractFacts} (scan : Scan)
    (h : ofContract? file c = some facts) : scan.structuralFindings Catalogue.missingEvent facts =
      ((namedFunctions c.members).filter fun f => f.shouldEmit && f.Silent).map (missingEventFinding file facts.name) := by
  obtain ⟨-, hfunctions, -⟩ := of_ofContract? h
  have hfound : Catalogue.missingEvent scan.unit facts = .ok ((facts.functions.filter fun f =>
      !f.isReadOnly && f.hasBody && f.emits.isEmpty && Catalogue.hasPlainName f).map fun f =>
        { Catalogue.missingEventTemplate.finding
            ("Function \"" ++ f.name ++ "\" modifies state but may not emit events") f.location with
          snippet := "event " ++ Catalogue.capitalize f.name ++ "(...);" }) := rfl
  rw [Scan.structuralFindings_eq hfound]
  · rw [hfunctions, List.filter_map, List.map_map]
    congr 1
    refine List.filter_congr fun f _ => ?_
    have hbody : (Scope.function ⟨file, facts.name⟩ f.declaration f.name).hasBody = f.declaration.body.isSome := rfl
    have hname : Catalogue.hasPlainName (Scope.function ⟨file, facts.name⟩ f.declaration f.name) =
        (!Text.startsWith f.name "_" && !Catalogue.hasFixedName f.name) := rfl
    rw [Function.comp_apply, isReadOnly_function, hbody, hname, NamedFunction.shouldEmit, Bool.eq_iff_iff]
    simp only [Bool.and_eq_true, decide_eq_true_eq, silent_iff ⟨file, facts.name⟩ f]
    tauto
  · intro f hf
    obtain ⟨f, -, rfl⟩ := List.mem_map.mp hf
    exact Finding.check_eq_ok Catalogue.missingEventInfo rfl rfl (by decide)

/-- **Events are seen outside expressions.** The events of a body are named once each, and they are those that are
emitted outside expressions; these are all its events exactly if each event that is emitted inside an expression is also
emitted outside. The rule reports the functions that should emit and do not emit outside expressions; it reports no
function that emits exactly if every function that should emit and emits does so outside expressions too. -/
theorem events_exact (file source : String) (unit : SourceUnit) :
    (∀ body : Block, (emittedEvents body).Nodup ∧
      (∀ name, name ∈ emittedEvents body ↔ ∃ path, EmittedAt body.statements path name ∧ Step.carried ∉ path) ∧
      ((∀ name, name ∈ emittedEvents body ↔ ∃ path, EmittedAt body.statements path name) ↔
        ∀ name path, EmittedAt body.statements path name →
          ∃ outside, EmittedAt body.statements outside name ∧ Step.carried ∉ outside)) ∧
    List.Forall₂ (fun c facts =>
      (Scan.ofUnit file source unit).structuralFindings Catalogue.missingEvent facts =
        ((namedFunctions c.members).filter fun f => f.shouldEmit && f.Silent).map
          (missingEventFinding file facts.name) ∧
      ((∀ f ∈ (namedFunctions c.members).filter fun f => f.shouldEmit && f.Silent,
          ∀ name path, ¬ EmittedAt f.statements path name) ↔
        ∀ f ∈ namedFunctions c.members, f.shouldEmit = true → ∀ name path, EmittedAt f.statements path name →
          ∃ event outside, EmittedAt f.statements outside event ∧ Step.carried ∉ outside))
      (unit.contracts.filter (·.name.isSome)) (ofUnit file unit) := by
  refine ⟨fun body => ⟨nodup_emittedEvents body, fun _ => mem_emittedEvents, emittedEvents_complete_iff body⟩, ?_⟩
  refine forall₂_ofUnit unit fun c facts h => ⟨structuralFindings_missingEvent _ h, ?_⟩
  simp only [List.mem_filter, Bool.and_eq_true, decide_eq_true_eq]
  constructor
  · intro hreported f hf hshould name path hemitted
    by_contra hinside
    refine hreported f ⟨hf, hshould, fun event outside hevent => ?_⟩ name path hemitted
    by_contra hfree
    exact hinside ⟨event, outside, hevent, hfree⟩
  · rintro houtside f ⟨hf, hshould, hsilent⟩ name path hemitted
    obtain ⟨event, outside, hevent, hfree⟩ := houtside f hf hshould name path hemitted
    exact hfree (hsilent event outside hevent)

/-- An attempt to pay, with an event in the clause for its failure. -/
def failedPayment : List Stmt :=
  [.unrecognized ⟨3, 8⟩ "try_statement" [.block ⟨3, 23⟩ []]
    [.call ⟨3, 12⟩ (.member ⟨3, 12⟩ (.identifier ⟨3, 12⟩ "this") "send") [] [],
      .unrecognized ⟨3, 26⟩ "catch_clause"
        [.block ⟨3, 32⟩ [.emit ⟨3, 34⟩ (.identifier ⟨3, 39⟩ "Failed") []]] []]]

/-- The event stands below the second expression of the attempt, in the statements that the clause carries. -/
theorem failedPayment_emits : ∃ path, EmittedAt failedPayment path "Failed" :=
  ⟨_, _, .deeper (.item (i := 0) rfl) (.deeper (.clause (i := 1) rfl) (.deeper (.carried rfl)
    (.deeper (.item (i := 0) rfl) (.deeper (.braces rfl) (.deeper (.item (i := 0) rfl) (.here _)))))), .identifier⟩

/-- A contract with one function, which pays. -/
def payingContract : SourceUnit where
  items := [.contract
    { kind := .contract, name := some "Bank", bases := [], pos := ⟨1, 0⟩, start := 0, stop := 100
      members := [
        .function
          { kind := .function, name := some "pay", visibility := none, mutability := none, modifiers := []
            parameters := [], returns := [], pos := ⟨2, 4⟩, body := some ⟨⟨2, 28⟩, failedPayment⟩ }] }]

/-- The function emits an event, yet its facts name none and the rule reports it. -/
theorem events_overlook_catch : ∃ f facts, (payingContract.contracts.flatMap fun c => namedFunctions c.members) = [f] ∧
    ofUnit "contract.sol" payingContract = [facts] ∧
    (∃ path, EmittedAt f.statements path "Failed") ∧
    "Failed" ∉ emittedEvents ⟨⟨2, 28⟩, f.statements⟩ ∧
    (Scan.ofUnit "contract.sol" "" payingContract).structuralFindings Catalogue.missingEvent facts =
      [missingEventFinding "contract.sol" "Bank" f] :=
  ⟨_, _, rfl, rfl, failedPayment_emits, by decide, rfl⟩

end ContractAudit
