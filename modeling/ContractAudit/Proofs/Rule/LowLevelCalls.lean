import ContractAudit.Proofs.Facts.Contract
import ContractAudit.Proofs.Rule.Catalogue
import ContractAudit.Rule.Catalogue

/-!
# What the rules on low-level calls report

The three rules read the calls that the facts of a contract record. Here their findings are described by the source
itself: by the member calls that stand in the bodies of the functions.

* `calls_complete`: no call is missed and none is recorded twice, and every `delegatecall` is reported.
* `flags_exact`: the flag of a call is what its place says (`Checked`), and the calls without it are reported unless
  they revert by themselves.
* `reentrancy_exact`: calls are looked up by the name of the function, so overloads are judged by each other's bodies.
  The rule judges every function by its own body exactly if no function without a call of its own and without a guard
  shares its name with one that calls.
-/

namespace ContractAudit

open Facts Solidity
open Text (Position)

/-! ## The calls of a function -/

/-- The place of an expression in a function of a contract. -/
def placeIn (file contract function : String) (e : Expr) : Location :=
  ⟨file, e.pos.line, e.pos.column, some function, some contract⟩

theorem callsOfKind_perm (file contract : String) (f : NamedFunction) (kind : CallKind) :
    ((((blockCalls f.statements).map (Scope.call ⟨file, contract⟩ f.name)).filter (·.kind == kind)).map
      (·.location)).Perm ((f.walk.filter (·.calledMember? == some kind.label)).map (placeIn file contract f.name)) := by
  let locate (found : CallKind × Position) : Option Location :=
    if found.1 = kind then some ⟨file, found.2.line, found.2.column, some f.name, some contract⟩ else none
  have hcalls : (((blockCalls f.statements).map (Scope.call ⟨file, contract⟩ f.name)).filter (·.kind == kind)).map
      (·.location) = ((blockCalls f.statements).map fun c => (c.kind, c.pos)).filterMap locate := by
    rw [List.filter_map, List.map_map, List.filterMap_map, ← List.filterMap_eq_map, ← List.filterMap_eq_filter,
      List.filterMap_filterMap]
    refine List.filterMap_congr fun c _ => ?_
    by_cases h : c.kind = kind <;> simp [locate, Scope.call, h, Option.guard, Scope.location, Location.ofPosition,
      Location.inContract, Location.inFunction]
  have hwalk : (f.walk.filter (·.calledMember? == some kind.label)).map (placeIn file contract f.name) =
      (f.walk.filterMap memberCall?).filterMap locate := by
    rw [← List.filterMap_eq_map, ← List.filterMap_eq_filter, List.filterMap_filterMap, List.filterMap_filterMap]
    refine List.filterMap_congr fun e _ => ?_
    rw [memberCall?_eq]
    by_cases h : e.calledMember? = some kind.label
    · simp [Option.guard, h, lowLevel?_eq_some.mpr h, locate, placeIn]
    · have hkind : lowLevel? e ≠ some kind := fun hk => h (lowLevel?_eq_some.mp hk)
      cases hlow : lowLevel? e with
      | none => simp [Option.guard, h]
      | some found =>
        have hne : found ≠ kind := fun heq => hkind (by rw [hlow, heq])
        simp [Option.guard, h, locate, hne]
  rw [hcalls, hwalk]
  exact (blockCalls_perm_walk f.statements).filterMap locate

/-! ## Every call is recorded once -/

/-- The calls in the facts of a contract are exactly the calls in the bodies of its functions. -/
structure CallsComplete (scan : Scan) (c : ContractDef) (facts : ContractFacts) : Prop where
  /-- The functions with a name are those that the facts describe. -/
  functions : facts.functions = (namedFunctions c.members).map fun f =>
    Scope.function ⟨scan.file, facts.name⟩ f.declaration f.name
  /-- One run of calls for each of them, at places in it, and as many as it has member calls. -/
  runs : ∃ runs : List (List ExternalCall), facts.calls = runs.flatten ∧
    List.Forall₂ (fun f run =>
      (∀ call ∈ run, call.location.file = scan.file ∧ call.location.function = some f.name ∧
        call.location.contract = some facts.name) ∧
      (run.map fun call => (call.kind, (⟨call.location.line, call.location.column⟩ : Position))).Perm
        (f.walk.filterMap memberCall?))
      (namedFunctions c.members) runs
  /-- One finding for every `delegatecall`, checked or not. -/
  delegatecalls : ((scan.structuralFindings Catalogue.delegatecall facts).map (·.location)).Perm
    ((namedFunctions c.members).flatMap fun f =>
      (f.walk.filter (·.calledMember? == some "delegatecall")).map (placeIn scan.file facts.name f.name))
  ids : ∀ finding ∈ scan.structuralFindings Catalogue.delegatecall facts, finding.id = "DC-01"

theorem structuralFindings_delegatecall (scan : Scan) (facts : ContractFacts) :
    scan.structuralFindings Catalogue.delegatecall facts =
      (facts.calls.filter (·.kind == .delegatecall)).map fun call =>
        Catalogue.delegatecallTemplate.finding
          "Delegatecall usage detected - verify target address is trusted" call.location := by
  refine Scan.structuralFindings_eq rfl fun f hf => ?_
  obtain ⟨call, -, rfl⟩ := List.mem_map.mp hf
  exact Finding.check_eq_ok Catalogue.delegatecallInfo rfl rfl (by decide)

/-- **Every low-level call of a function is recorded, and recorded once.** -/
theorem calls_complete (file source : String) (unit : SourceUnit) :
    List.Forall₂ (CallsComplete (Scan.ofUnit file source unit)) (unit.contracts.filter (·.name.isSome))
      (ofUnit file unit) := by
  refine forall₂_ofUnit unit fun c facts h => ?_
  obtain ⟨-, hfunctions, hcalls⟩ := of_ofContract? h
  refine ⟨hfunctions, ?_, ?_, ?_⟩
  · refine ⟨(namedFunctions c.members).map fun f =>
      (blockCalls f.statements).map (Scope.call ⟨file, facts.name⟩ f.name), by rw [hcalls, List.flatMap_def], ?_⟩
    rw [List.forall₂_map_right_iff]
    refine List.forall₂_same.mpr fun f _ => ⟨fun call hcall => ?_, ?_⟩
    · obtain ⟨site, -, rfl⟩ := List.mem_map.mp hcall
      exact ⟨rfl, rfl, rfl⟩
    · rw [List.map_map]
      exact blockCalls_perm_walk f.statements
  · rw [structuralFindings_delegatecall, List.map_map, hcalls, List.filter_flatMap, List.map_flatMap]
    exact List.Perm.flatMap_left _ fun f _ => callsOfKind_perm file facts.name f .delegatecall
  · intro finding hfinding
    rw [structuralFindings_delegatecall] at hfinding
    obtain ⟨call, -, rfl⟩ := List.mem_map.mp hfinding
    rfl

/-! ## The flag of a call -/

/-- The record of a call that stands in a function. -/
def Facts.FoundCall.record (file contract function : String) (c : FoundCall) : ExternalCall :=
  ⟨c.kind, placeIn file contract function c.call, decide (Checked c.path c.call.pos)⟩

theorem structuralFindings_uncheckedCall (scan : Scan) (facts : ContractFacts) :
    scan.structuralFindings Catalogue.uncheckedCall facts =
      (facts.calls.filter fun call => call.kind.returnsStatus && !call.checked).map Catalogue.uncheckedCallFinding := by
  refine Scan.structuralFindings_eq rfl fun f hf => ?_
  obtain ⟨call, -, rfl⟩ := List.mem_map.mp hf
  exact Finding.check_eq_ok Catalogue.uncheckedCallInfo rfl rfl (by decide)

theorem returnsStatus_iff {kind : CallKind} : kind.returnsStatus = true ↔ kind ≠ .transfer := by
  cases kind <;> decide

/-- **The flag of a call is decided by where it stands.** For every body there is a list of its low-level calls, each
occurrence once, such that the facts of every contract record these calls with the flag `Checked`, and the rule reports
the ones that are not checked and return a status. -/
theorem flags_exact (file source : String) (unit : SourceUnit) :
    ∃ calls : List Stmt → List FoundCall, (∀ statements, FoundIn statements (calls statements)) ∧
      List.Forall₂ (fun c facts =>
        facts.calls = (namedFunctions c.members).flatMap (fun f =>
          (calls f.statements).map (FoundCall.record file facts.name f.name)) ∧
        (Scan.ofUnit file source unit).structuralFindings Catalogue.uncheckedCall facts =
          (namedFunctions c.members).flatMap fun f =>
            ((calls f.statements).filter fun call => call.kind ≠ .transfer ∧ ¬ Checked call.path call.call.pos).map
              fun call => Catalogue.uncheckedCallFinding (call.record file facts.name f.name))
        (unit.contracts.filter (·.name.isSome)) (ofUnit file unit) := by
  choose calls hfound hcalls using exists_foundIn
  refine ⟨calls, hfound, forall₂_ofUnit unit fun c facts h => ?_⟩
  obtain ⟨-, -, hfacts⟩ := of_ofContract? h
  have hrecords : facts.calls = (namedFunctions c.members).flatMap fun f =>
      (calls f.statements).map (FoundCall.record file facts.name f.name) := by
    rw [hfacts]
    refine List.flatMap_congr fun f _ => ?_
    rw [hcalls, List.map_map]
    rfl
  refine ⟨hrecords, ?_⟩
  rw [structuralFindings_uncheckedCall, hrecords, List.filter_flatMap, List.map_flatMap]
  refine List.flatMap_congr fun f _ => ?_
  rw [List.filter_map, List.map_map]
  congr 1
  refine List.filter_congr fun call _ => ?_
  rw [Bool.eq_iff_iff, decide_eq_true_iff, Function.comp_apply, Bool.and_eq_true, returnsStatus_iff]
  simp [FoundCall.record]

/-! ## Overloads share their calls -/

/-- Does the function call a member `call` in its own body? -/
def Facts.NamedFunction.callsOut (f : NamedFunction) : Bool := f.walk.any (·.calledMember? == some "call")

def Facts.NamedFunction.isProtected (f : NamedFunction) : Bool := f.declaration.modifiers.contains "nonReentrant"

/-- Does some function of the same name call out? -/
def Facts.NamedFunction.callsByName (f : NamedFunction) (functions : List NamedFunction) : Bool :=
  functions.any fun g => g.name == f.name && g.callsOut

/-- The finding of the rule on a function. -/
def reentrancyFinding (file contract : String) (f : NamedFunction) : Finding :=
  Catalogue.reentrancyTemplate.finding
    ("Function \"" ++ f.name ++ "\" makes external calls without reentrancy protection")
    ⟨file, f.declaration.pos.line, f.declaration.pos.column, some f.name, some contract⟩

/-- One finding for every function that calls in its own body and is not protected. -/
def ownBodyFindings (file contract : String) (functions : List NamedFunction) : List Finding :=
  (functions.filter fun f => f.callsOut && !f.isProtected).map (reentrancyFinding file contract)

theorem callsOut_iff {f : NamedFunction} : f.callsOut = true ↔ ∃ site ∈ blockCalls f.statements, site.kind = .call := by
  have hmem := fun pos => (blockCalls_perm_walk f.statements).mem_iff (a := (CallKind.call, pos))
  simp only [List.mem_map, List.mem_filterMap, memberCall?_eq, Option.map_eq_some_iff, Prod.mk.injEq] at hmem
  rw [NamedFunction.callsOut, List.any_eq_true]
  constructor
  · rintro ⟨e, he, hcall⟩
    have hkind : lowLevel? e = some .call := lowLevel?_eq_some.mpr (by simpa [CallKind.label] using hcall)
    obtain ⟨site, hsite, hk, -⟩ := (hmem e.pos).mpr ⟨e, he, .call, hkind, rfl, rfl⟩
    exact ⟨site, hsite, hk⟩
  · rintro ⟨site, hsite, hk⟩
    obtain ⟨e, he, kind, hlow, rfl, -⟩ := (hmem site.pos).mp ⟨site, hsite, hk, rfl⟩
    exact ⟨e, he, by simpa [CallKind.label] using lowLevel?_eq_some.mp hlow⟩

theorem any_callsIn {file : String} {c : ContractDef} {facts : ContractFacts} (h : ofContract? file c = some facts)
    (name : String) : (facts.callsIn name).any (·.kind == .call) =
      (namedFunctions c.members).any fun g => g.name == name && g.callsOut := by
  obtain ⟨-, -, hcalls⟩ := of_ofContract? h
  rw [Bool.eq_iff_iff]
  simp only [ContractFacts.callsIn, List.any_filter, List.any_eq_true, hcalls, List.mem_flatMap, List.mem_map,
    Bool.and_eq_true, beq_iff_eq, callsOut_iff]
  constructor
  · rintro ⟨_, ⟨g, hg, site, hsite, rfl⟩, hname, hcall⟩
    exact ⟨g, hg, Option.some.inj hname, site, hsite, hcall⟩
  · rintro ⟨g, hg, rfl, site, hsite, hcall⟩
    exact ⟨_, ⟨g, hg, site, hsite, rfl⟩, rfl, hcall⟩

theorem structuralFindings_reentrancy {file : String} {c : ContractDef} {facts : ContractFacts} (scan : Scan)
    (h : ofContract? file c = some facts) : scan.structuralFindings Catalogue.reentrancy facts =
      ((namedFunctions c.members).filter fun f => f.callsByName (namedFunctions c.members) && !f.isProtected).map
        (reentrancyFinding file facts.name) := by
  obtain ⟨-, hfunctions, -⟩ := of_ofContract? h
  have hfound : Catalogue.reentrancy scan.unit facts = .ok ((facts.functions.filter fun f =>
      (facts.callsIn f.name).any (·.kind == .call) && !f.hasModifier "nonReentrant").map fun f =>
        Catalogue.reentrancyTemplate.finding
          ("Function \"" ++ f.name ++ "\" makes external calls without reentrancy protection") f.location) := rfl
  rw [Scan.structuralFindings_eq hfound]
  · rw [hfunctions, List.filter_map, List.map_map]
    congr 1
    refine List.filter_congr fun f _ => ?_
    rw [Function.comp_apply, any_callsIn h]
    rfl
  · intro f hf
    obtain ⟨f, -, rfl⟩ := List.mem_map.mp hf
    exact Finding.check_eq_ok Catalogue.reentrancyInfo rfl rfl (by decide)

/-- **The rule on reentrancy judges functions by name.** It reports a function that is not protected if some function
of the same name calls out. These are the findings by own bodies exactly if no function that neither calls out nor is
protected has an overload that calls out. -/
theorem reentrancy_exact (file source : String) (unit : SourceUnit) :
    List.Forall₂ (fun c facts =>
      (Scan.ofUnit file source unit).structuralFindings Catalogue.reentrancy facts =
        ((namedFunctions c.members).filter fun f => f.callsByName (namedFunctions c.members) && !f.isProtected).map
          (reentrancyFinding file facts.name) ∧
      (((Scan.ofUnit file source unit).structuralFindings Catalogue.reentrancy facts).Perm
          (ownBodyFindings file facts.name (namedFunctions c.members)) ↔
        ∀ f ∈ namedFunctions c.members, ∀ g ∈ namedFunctions c.members, f.name = g.name → g.callsOut = true →
          f.callsOut = true ∨ f.isProtected = true))
      (unit.contracts.filter (·.name.isSome)) (ofUnit file unit) := by
  refine forall₂_ofUnit unit fun c facts h => ?_
  refine ⟨structuralFindings_reentrancy _ h, ?_⟩
  rw [structuralFindings_reentrancy _ h, ownBodyFindings]
  set fs := namedFunctions c.members
  have hself : ∀ f ∈ fs, f.callsOut = true → f.callsByName fs = true :=
    fun f hf hcalls => List.any_eq_true.mpr ⟨f, hf, by simp [hcalls]⟩
  constructor
  · intro hperm f hf g hg hname hcalls
    -- the findings by own bodies are some of the reported ones, so equal numbers mean all of them
    have hown : fs.filter (fun f => f.callsOut && !f.isProtected) =
        (fs.filter fun f => f.callsByName fs && !f.isProtected).filter (·.callsOut) := by
      rw [List.filter_filter]
      refine List.filter_congr fun f hf => ?_
      cases hc : f.callsOut with
      | false => simp
      | true => simp [hself f hf hc]
    have hlength := hperm.length_eq
    rw [List.length_map, List.length_map, hown, eq_comm, List.length_filter_eq_length_iff] at hlength
    by_cases hprotected : f.isProtected = true
    · exact .inr hprotected
    · refine .inl (hlength f (List.mem_filter.mpr ⟨hf, ?_⟩))
      have hshared : f.callsByName fs = true := List.any_eq_true.mpr ⟨g, hg, by simp [hname, hcalls]⟩
      simp [hshared, hprotected]
  · intro hown
    refine .of_eq (congrArg _ (List.filter_congr fun f hf => ?_))
    cases hprotected : f.isProtected with
    | true => simp
    | false =>
      rw [Bool.not_false, Bool.and_true, Bool.and_true, Bool.eq_iff_iff]
      refine ⟨fun hany => ?_, hself f hf⟩
      obtain ⟨g, hg, hcalls⟩ := List.any_eq_true.mp hany
      rw [Bool.and_eq_true, beq_iff_eq] at hcalls
      simpa [hprotected] using hown f hf g hg hcalls.1.symm hcalls.2

/-- A contract with two functions `pay`, of which only the first calls out. -/
def overloadedPay : SourceUnit where
  items := [.contract
    { kind := .contract, name := some "Bank", bases := [], pos := ⟨1, 0⟩, start := 0, stop := 100
      members := [
        .function
          { kind := .function, name := some "pay", visibility := none, mutability := none, modifiers := []
            parameters := [], returns := [], pos := ⟨2, 4⟩
            body := some ⟨⟨2, 32⟩, [.expression
              (.call ⟨3, 8⟩ (.member ⟨3, 8⟩ (.identifier ⟨3, 8⟩ "to") "call") [] [.literal ⟨3, 16⟩ "\"\""])]⟩ },
        .function
          { kind := .function, name := some "pay", visibility := none, mutability := none, modifiers := []
            parameters := [], returns := [], pos := ⟨5, 4⟩, body := some ⟨⟨5, 24⟩, []⟩ }] }]

/-- The second function is reported for a call that it does not make. -/
theorem reentrancy_blames_overload : ∃ c facts, overloadedPay.contracts = [c] ∧
    ofUnit "contract.sol" overloadedPay = [facts] ∧
    ¬ ((Scan.ofUnit "contract.sol" "" overloadedPay).structuralFindings Catalogue.reentrancy facts).Perm
        (ownBodyFindings "contract.sol" facts.name (namedFunctions c.members)) :=
  ⟨_, _, rfl, rfl, fun h => absurd h.length_eq (by decide)⟩

end ContractAudit
