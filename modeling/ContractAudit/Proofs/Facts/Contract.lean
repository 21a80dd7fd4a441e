import ContractAudit.Facts.Contract
import ContractAudit.Proofs.Facts.Calls
import ContractAudit.Proofs.Partial

/-!
# The functions of a contract and their calls

The facts of a contract gather what its members contribute. Of the functions with a name, in the order of the members,
each gives one record and one run of calls (`functions_eq`, `calls_eq`); all other members give neither.
-/

namespace ContractAudit.Facts

open Solidity

/-- A function under the name that it is known by. -/
structure NamedFunction where
  name : String
  declaration : FunctionDef

namespace NamedFunction

/-- The statements of the body; none without a body. -/
def statements (f : NamedFunction) : List Stmt := (f.declaration.body.map Block.statements).getD []

/-- All expressions of the body. -/
def walk (f : NamedFunction) : List Expr := walkStmts f.statements

end NamedFunction

/-- The functions of a member list that have a name. -/
def namedFunctions (members : List Member) : List NamedFunction :=
  members.filterMap fun
    | .function f => (functionName? f).map (⟨·, f⟩)
    | _ => none

/-- A call of a function as the facts of a contract record it. -/
def Scope.call (scope : Scope) (function : String) (c : CallSite) : ExternalCall :=
  ⟨c.kind, (scope.location c.pos).inFunction function, c.checked⟩

theorem Scope.bodyCalls_eq (scope : Scope) (f : NamedFunction) :
    scope.bodyCalls f.name f.declaration.body = (blockCalls f.statements).map (scope.call f.name) := by
  unfold NamedFunction.statements Scope.bodyCalls
  cases f.declaration.body <;> rfl

/-! ## Members one after the other -/

theorem Scope.members_cons (scope : Scope) (m : Member) (members : List Member) :
    scope.members (m :: members) = (scope.member m).append (scope.members members) := rfl

theorem Scope.variables_contribute (scope : Scope) (declared : List VariableDef) :
    ((declared.map scope.variable).foldr MemberFacts.append {}).functions = [] ∧
      ((declared.map scope.variable).foldr MemberFacts.append {}).calls = [] := by
  induction declared with
  | nil => exact ⟨rfl, rfl⟩
  | cons v declared ih =>
    have hv : (scope.variable v).functions = [] ∧ (scope.variable v).calls = [] := by
      unfold Scope.variable
      cases v.name <;> exact ⟨rfl, rfl⟩
    simp only [List.map_cons, List.foldr_cons, MemberFacts.append, hv.1, hv.2, ih.1, ih.2, List.nil_append, and_self]

theorem Scope.member_contributes (scope : Scope) (m : Member) :
    (scope.member m).functions = (namedFunctions [m]).map (fun f => scope.function f.declaration f.name) ∧
      (scope.member m).calls =
        (namedFunctions [m]).flatMap fun f => (blockCalls f.statements).map (scope.call f.name) := by
  cases m with
  | function f =>
    cases hname : functionName? f with
    | none => simp [Scope.member, namedFunctions, hname]
    | some name =>
      have hcalls := scope.bodyCalls_eq ⟨name, f⟩
      simp only at hcalls
      simp [Scope.member, namedFunctions, hname, hcalls]
  | state pos declared => exact scope.variables_contribute declared
  | event e => cases hname : e.name <;> simp [Scope.member, namedFunctions, hname]
  | modifier m => cases hname : m.name <;> simp [Scope.member, namedFunctions, hname]
  | unrecognized node => exact ⟨rfl, rfl⟩

theorem namedFunctions_cons (m : Member) (members : List Member) :
    namedFunctions (m :: members) = namedFunctions [m] ++ namedFunctions members :=
  List.filterMap_append (l := [m])

theorem Scope.functions_eq (scope : Scope) (members : List Member) : (scope.members members).functions =
    (namedFunctions members).map fun f => scope.function f.declaration f.name := by
  induction members with
  | nil => rfl
  | cons m members ih =>
    rw [members_cons, namedFunctions_cons, List.map_append, ← ih, ← (scope.member_contributes m).1]
    rfl

theorem Scope.calls_eq (scope : Scope) (members : List Member) : (scope.members members).calls =
    (namedFunctions members).flatMap fun f => (blockCalls f.statements).map (scope.call f.name) := by
  induction members with
  | nil => rfl
  | cons m members ih =>
    rw [members_cons, namedFunctions_cons, List.flatMap_append, ← ih, ← (scope.member_contributes m).2]
    rfl

/-! ## Contracts -/

theorem of_ofContract? {file : String} {c : ContractDef} {facts : ContractFacts} (h : ofContract? file c = some facts) :
    c.name = some facts.name ∧
      facts.functions = (namedFunctions c.members).map (fun f =>
        Scope.function ⟨file, facts.name⟩ f.declaration f.name) ∧
      facts.calls = (namedFunctions c.members).flatMap fun f =>
        (blockCalls f.statements).map (Scope.call ⟨file, facts.name⟩ f.name) := by
  obtain ⟨name, hname, rfl⟩ := Option.map_eq_some_iff.mp h
  exact ⟨hname, Scope.functions_eq _ _, Scope.calls_eq _ _⟩

theorem forall₂_ofUnit {R : ContractDef → ContractFacts → Prop} {file : String} (unit : SourceUnit)
    (h : ∀ c facts, ofContract? file c = some facts → R c facts) :
    List.Forall₂ R (unit.contracts.filter (·.name.isSome)) (ofUnit file unit) := by
  have hname : ∀ c, (ofContract? file c).isSome = c.name.isSome := fun c => by simp [ofContract?]
  exact forall₂_filterMap hname h unit.contracts

end ContractAudit.Facts
