import ContractAudit.Proofs.Facts.References

/-!
# Facts are gathered declaration by declaration

A declaration without a name, where one is needed, cannot be described and is passed over. Such a declaration leaves no
trace: `SourceUnit.described` takes all of them out, and the facts stay as they are (`ofUnit_described`). The others
contribute each by itself: the facts of a list of members are those of its front followed by those of its back
(`Scope.members_append`).
-/

namespace ContractAudit

open Solidity

/-! ## Declarations that can be described -/

namespace Solidity

/-- A function has a name of its own, or its kind gives it one. -/
def FunctionDef.isNamed (f : FunctionDef) : Bool := f.kind != .function || f.name.isSome

/-- The part of a member that can be described: all of it, or its variables that have a name, or nothing. -/
def Member.described? : Member → Option Member
  | .function f => if f.isNamed then some (.function f) else none
  | .state p declared => some (.state p (declared.filter (·.name.isSome)))
  | .event e => if e.name.isSome then some (.event e) else none
  | .modifier m => if m.name.isSome then some (.modifier m) else none
  | .unrecognized _ => none

def ContractDef.described (c : ContractDef) : ContractDef := { c with members := c.members.filterMap Member.described? }

/-- The part of an item that can be described, if it is a contract; all else is no matter of facts and stays. -/
def Item.described? : Item → Option Item
  | .contract c => if c.name.isSome then some (.contract c.described) else none
  | .pragma p => some (.pragma p)
  | .unrecognized node => some (.unrecognized node)

/-- The file without the declarations that cannot be described. -/
def SourceUnit.described (unit : SourceUnit) : SourceUnit := ⟨unit.items.filterMap Item.described?⟩

/-- Everything that the member declares has a name, where one is needed. -/
inductive Member.Complete : Member → Prop
  | function {f : FunctionDef} (h : f.kind = .function → f.name ≠ none) : Complete (.function f)
  | state {p : Text.Position} {declared : List VariableDef} (h : ∀ v ∈ declared, v.name ≠ none) :
    Complete (.state p declared)
  | event {e : EventDef} (h : e.name ≠ none) : Complete (.event e)
  | modifier {m : ModifierDef} (h : m.name ≠ none) : Complete (.modifier m)

/-- Everything in the contracts of the file has a name, where one is needed. -/
def SourceUnit.Complete (unit : SourceUnit) : Prop :=
  ∀ c ∈ unit.contracts, c.name ≠ none ∧ ∀ m ∈ c.members, m.Complete

theorem FunctionDef.isNamed_iff {f : FunctionDef} : f.isNamed = true ↔ (f.kind = .function → f.name ≠ none) := by
  rw [isNamed, Bool.or_eq_true, bne_iff_ne, Option.isSome_iff_ne_none, imp_iff_not_or]

theorem Member.complete_of_described? {m kept : Member} (h : m.described? = some kept) : kept.Complete := by
  cases m with
  | function f =>
    rw [described?] at h
    split at h
    · next hname => exact Option.some.inj h ▸ .function (FunctionDef.isNamed_iff.mp hname)
    · cases h
  | state p declared =>
    obtain rfl := Option.some.inj h
    apply Complete.state
    intro v hv
    exact Option.isSome_iff_ne_none.mp (List.mem_filter.mp hv).2
  | event e =>
    rw [described?] at h
    split at h
    · next hname => exact Option.some.inj h ▸ .event (Option.isSome_iff_ne_none.mp hname)
    · cases h
  | modifier m =>
    rw [described?] at h
    split at h
    · next hname => exact Option.some.inj h ▸ .modifier (Option.isSome_iff_ne_none.mp hname)
    · cases h
  | unrecognized node => cases h

theorem Member.described?_of_complete {m : Member} (h : m.Complete) : m.described? = some m := by
  cases h with
  | function h => rw [described?, if_pos (FunctionDef.isNamed_iff.mpr h)]
  | state h =>
    rw [described?, List.filter_eq_self.mpr]
    intro v hv
    exact Option.isSome_iff_ne_none.mpr (h v hv)
  | event h => rw [described?, if_pos (Option.isSome_iff_ne_none.mpr h)]
  | modifier h => rw [described?, if_pos (Option.isSome_iff_ne_none.mpr h)]

theorem SourceUnit.complete_described (unit : SourceUnit) : unit.described.Complete := by
  intro c hc
  obtain ⟨kept, hkept, hcontract⟩ := List.mem_filterMap.mp hc
  obtain ⟨item, -, hitem⟩ := List.mem_filterMap.mp hkept
  cases item with
  | contract d =>
    rw [Item.described?] at hitem
    split at hitem
    · next hname =>
      obtain rfl := Option.some.inj hitem
      obtain rfl := Option.some.inj hcontract
      refine ⟨Option.isSome_iff_ne_none.mp hname, ?_⟩
      intro m hm
      obtain ⟨n, -, hn⟩ := List.mem_filterMap.mp hm
      exact Member.complete_of_described? hn
    · cases hitem
  | pragma p =>
    obtain rfl := Option.some.inj hitem
    cases hcontract
  | unrecognized node =>
    obtain rfl := Option.some.inj hitem
    cases hcontract

theorem SourceUnit.described_of_complete {unit : SourceUnit} (h : unit.Complete) : unit.described = unit := by
  have hitems : unit.items.filterMap Item.described? = unit.items.filterMap some := by
    apply List.filterMap_congr
    intro item hitem
    cases item with
    | contract c =>
      obtain ⟨hname, hmembers⟩ := h c (List.mem_filterMap.mpr ⟨_, hitem, rfl⟩)
      have hkept : c.members.filterMap Member.described? = c.members.filterMap some :=
        List.filterMap_congr fun m hm => Member.described?_of_complete (hmembers m hm)
      rw [Item.described?, if_pos (Option.isSome_iff_ne_none.mpr hname), ContractDef.described, hkept,
        List.filterMap_some]
    | pragma p => rfl
    | unrecognized node => rfl
  rw [described, hitems, List.filterMap_some]

end Solidity

namespace Facts

theorem isSome_functionName? (f : FunctionDef) : (functionName? f).isSome = f.isNamed := by
  unfold functionName? FunctionDef.isNamed
  cases f.kind <;> simp

/-! ## Contributions -/

namespace MemberFacts

@[simp] theorem nil_append (a : MemberFacts) : append {} a = a := rfl

theorem append_assoc (a b c : MemberFacts) : (a.append b).append c = a.append (b.append c) := by
  simp only [append, List.append_assoc]

end MemberFacts

namespace Scope

variable (scope : Scope)

theorem members_append (front back : List Member) :
    scope.members (front ++ back) = (scope.members front).append (scope.members back) := by
  induction front with
  | nil => rfl
  | cons m front ih => rw [List.cons_append, members_cons, ih, members_cons, MemberFacts.append_assoc]

theorem variables_named (declared : List VariableDef) :
    ((declared.filter (·.name.isSome)).map scope.variable).foldr MemberFacts.append {} =
      (declared.map scope.variable).foldr MemberFacts.append {} := by
  induction declared with
  | nil => rfl
  | cons v declared ih =>
    rw [List.map_cons, List.foldr_cons, ← ih]
    by_cases hname : v.name.isSome = true
    · rw [List.filter_cons, if_pos hname, List.map_cons, List.foldr_cons]
    · have hnone : v.name = none := by simpa using hname
      have hvariable : scope.variable v = {} := by simp [Scope.variable, hnone]
      rw [List.filter_cons, if_neg hname, hvariable, MemberFacts.nil_append]

theorem member_of_described?_eq_none {m : Member} (h : m.described? = none) : scope.member m = {} := by
  cases m with
  | function f =>
    have hname : functionName? f = none := by
      rw [← Option.isNone_iff_eq_none, ← Option.not_isSome, isSome_functionName?]
      simpa [Member.described?] using h
    simp [Scope.member, hname]
  | state p declared => cases h
  | event e =>
    have hname : e.name = none := by simpa [Member.described?] using h
    simp [Scope.member, hname]
  | modifier m =>
    have hname : m.name = none := by simpa [Member.described?] using h
    simp [Scope.member, hname]
  | unrecognized node => rfl

theorem member_of_described?_eq_some {m kept : Member} (h : m.described? = some kept) :
    scope.member kept = scope.member m := by
  cases m with
  | state p declared =>
    obtain rfl := Option.some.inj h
    exact scope.variables_named declared
  | unrecognized node => cases h
  | function f | event e | modifier m =>
    rw [Member.described?] at h
    split at h
    · rw [Option.some.inj h]
    · cases h

theorem members_described (members : List Member) :
    scope.members (members.filterMap Member.described?) = scope.members members := by
  induction members with
  | nil => rfl
  | cons m members ih =>
    rw [members_cons, ← ih]
    cases hm : m.described? with
    | none => rw [List.filterMap_cons_none hm, scope.member_of_described?_eq_none hm, MemberFacts.nil_append]
    | some kept => rw [List.filterMap_cons_some hm, members_cons, scope.member_of_described?_eq_some hm]

end Scope

/-! ## Contracts and files -/

theorem ofContract?_congr (file : String) (c : ContractDef) {members : List Member}
    (h : ∀ scope : Scope, scope.members members = scope.members c.members) :
    ofContract? file { c with members } = ofContract? file c := by
  simp only [ofContract?, h]

theorem ofContract?_described (file : String) (c : ContractDef) : ofContract? file c.described = ofContract? file c :=
  ofContract?_congr file c fun scope => scope.members_described c.members

theorem ofUnit_described (file : String) (unit : SourceUnit) : ofUnit file unit.described = ofUnit file unit := by
  unfold ofUnit SourceUnit.contracts SourceUnit.described
  rw [List.filterMap_filterMap, List.filterMap_filterMap, List.filterMap_filterMap]
  apply List.filterMap_congr
  intro item _
  cases item with
  | contract c =>
    cases hname : c.name with
    | none => simp [Item.described?, hname, ofContract?]
    | some name => simp [Item.described?, hname, ofContract?_described]
  | pragma p => rfl
  | unrecognized node => rfl

/-- The names of both sets, in increasing order. -/
structure IsUnion (first second whole : List String) : Prop where
  increasing : whole.Pairwise (· < ·)
  mem_iff : ∀ name, name ∈ whole ↔ name ∈ first ∨ name ∈ second

theorem isUnion_nameSet (first second : List String) :
    IsUnion (nameSet first) (nameSet second) (nameSet (first ++ second)) := by
  refine ⟨increasing_nameSet _, ?_⟩
  intro name
  rw [mem_nameSet, mem_nameSet, mem_nameSet, List.mem_append]

/-- The facts of one contract, joined from the facts of two parts of it. -/
structure ContractFacts.Joins (whole first second : ContractFacts) : Prop where
  functions : whole.functions = first.functions ++ second.functions
  stateVariables : whole.stateVariables = first.stateVariables ++ second.stateVariables
  events : whole.events = first.events ++ second.events
  modifiers : whole.modifiers = first.modifiers ++ second.modifiers
  calls : whole.calls = first.calls ++ second.calls
  identifiers : IsUnion first.identifiers second.identifiers whole.identifiers
  calledNames : IsUnion first.calledNames second.calledNames whole.calledNames

theorem joins_of_append (file name : String) (c : ContractDef) (front back : List Member) :
    ∃ whole first second, ofContract? file { c with name := some name, members := front ++ back } = some whole ∧
      ofContract? file { c with name := some name, members := front } = some first ∧
      ofContract? file { c with name := some name, members := back } = some second ∧ whole.Joins first second := by
  have hmembers := Scope.members_append ⟨file, name⟩ front back
  refine ⟨_, _, _, rfl, rfl, rfl, ?_⟩
  constructor
  case identifiers | calledNames =>
    simp only [hmembers]
    exact isUnion_nameSet _ _
  all_goals
    simp only [hmembers]
    rfl

/-- **Facts are gathered declaration by declaration.** All contracts without a name, functions, events and modifiers
that lack one, variables without a name and unrecognized members can be taken out of a file, and the facts stay the
same; nothing of the kind is left then, and a file without any is left alone. The facts of a named contract are those of
the front of its members, followed by those of the back; the names that its code refers to are the names of both. So a
member that cannot be described has no influence on those around it, and neither have contracts on each other. -/
theorem extraction_compositional (file : String) :
    (∀ unit : SourceUnit, ofUnit file unit.described = ofUnit file unit ∧ unit.described.Complete ∧
      (unit.Complete → unit.described = unit)) ∧
    (∀ (c : ContractDef) (name : String) (front back : List Member), ∃ whole first second,
      ofContract? file { c with name := some name, members := front ++ back } = some whole ∧
      ofContract? file { c with name := some name, members := front } = some first ∧
      ofContract? file { c with name := some name, members := back } = some second ∧ whole.Joins first second) ∧
    (∀ (c : ContractDef) (front back : List Member) (m : Member), m.described? = none →
      ofContract? file { c with members := front ++ m :: back } = ofContract? file { c with members := front ++ back }) ∧
    ∀ front back : List Item, ofUnit file ⟨front ++ back⟩ = ofUnit file ⟨front⟩ ++ ofUnit file ⟨back⟩ := by
  refine ⟨?_, fun c name front back => joins_of_append file name c front back, ?_, ?_⟩
  · intro unit
    exact ⟨ofUnit_described file unit, unit.complete_described, SourceUnit.described_of_complete⟩
  · intro c front back m hm
    apply ofContract?_congr file { c with members := front ++ back }
    intro scope
    rw [scope.members_append, scope.members_append, scope.members_cons, scope.member_of_described?_eq_none hm,
      MemberFacts.nil_append]
  · intro front back
    simp only [ofUnit, SourceUnit.contracts, List.filterMap_append]

end Facts

end ContractAudit
