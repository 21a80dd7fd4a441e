import ContractAudit.Proofs.Facts.Contract
import ContractAudit.Proofs.Names
import ContractAudit.Proofs.Solidity.Containment

/-!
# The names that code refers to

The facts of a contract name the identifiers and the called names in its code, which is the bodies of functions and
modifiers and the initial values of state variables (`CodeOf`), of those declarations that have a name. They name all of
them and nothing else (`mem_identifiers`, `mem_calledNames`), and so do the facts of a function name the parameters that
its body compares with the zero address (`Scope.mem_zeroChecked`).
-/

namespace ContractAudit.Facts

open Solidity
open Text (Position)

/-! ## State variables -/

/-- A state variable with its name. -/
structure NamedVariable where
  name : String
  declaration : VariableDef

/-- The state variables of a member list that have a name. -/
def namedVariables (members : List Member) : List NamedVariable :=
  members.flatMap fun
    | .state _ declared => declared.filterMap fun v => v.name.map (⟨·, v⟩)
    | _ => []

/-- A state variable as the facts of a contract record it. -/
def Scope.variableFacts (scope : Scope) (v : NamedVariable) : VariableFacts where
  name := v.name
  type := renderType v.declaration.type
  visibility := v.declaration.visibility.getD "internal"
  hasValue := v.declaration.value.isSome
  constant := v.declaration.constant
  location := scope.location v.declaration.pos

theorem namedVariables_cons (m : Member) (members : List Member) :
    namedVariables (m :: members) = namedVariables [m] ++ namedVariables members := by
  unfold namedVariables
  rw [← List.flatMap_append, List.singleton_append]

theorem namedVariables_state (p : Position) (declared : List VariableDef) :
    namedVariables [.state p declared] = declared.filterMap fun v => v.name.map (⟨·, v⟩) :=
  List.append_nil _

theorem Scope.variables_eq (scope : Scope) (declared : List VariableDef) :
    ((declared.map scope.variable).foldr MemberFacts.append {}).stateVariables =
      (declared.filterMap fun v => v.name.map (NamedVariable.mk · v)).map scope.variableFacts := by
  induction declared with
  | nil => rfl
  | cons v declared ih =>
    have hstep : (((v :: declared).map scope.variable).foldr MemberFacts.append {}).stateVariables =
        (scope.variable v).stateVariables ++
          ((declared.map scope.variable).foldr MemberFacts.append {}).stateVariables := rfl
    rw [hstep, ih, Scope.variable]
    cases hname : v.name <;> simp [hname, Scope.variableFacts]

theorem Scope.stateVariables_eq (scope : Scope) (members : List Member) :
    (scope.members members).stateVariables = (namedVariables members).map scope.variableFacts := by
  induction members with
  | nil => rfl
  | cons m members ih =>
    have hmember : (scope.member m).stateVariables = (namedVariables [m]).map scope.variableFacts := by
      cases m with
      | function f => cases hname : functionName? f <;> simp [Scope.member, namedVariables, hname]
      | state p declared =>
        rw [namedVariables_state]
        exact scope.variables_eq declared
      | event e => cases hname : e.name <;> simp [Scope.member, namedVariables, hname]
      | modifier m => cases hname : m.name <;> simp [Scope.member, namedVariables, hname]
      | unrecognized node => rfl
    rw [members_cons, namedVariables_cons, List.map_append, ← ih, ← hmember]
    rfl

theorem stateVariables_of_ofContract? {file : String} {c : ContractDef} {facts : ContractFacts}
    (h : ofContract? file c = some facts) :
    facts.stateVariables = (namedVariables c.members).map (Scope.variableFacts ⟨file, facts.name⟩) := by
  obtain ⟨name, -, rfl⟩ := Option.map_eq_some_iff.mp h
  exact Scope.stateVariables_eq _ _

/-! ## Code -/

/-- `CodeOf members f`: a declaration among the members has a name, and `f` is its body or its initial value. -/
inductive CodeOf (members : List Member) : Fragment → Prop
  | function {f : NamedFunction} (h : f ∈ namedFunctions members) : CodeOf members (.sequence f.statements)
  | modifier {m : ModifierDef} {body : Block} (h : .modifier m ∈ members) (hname : m.name.isSome = true)
    (hbody : m.body = some body) : CodeOf members (.sequence body.statements)
  | value {v : NamedVariable} {e : Expr} (h : v ∈ namedVariables members) (hvalue : v.declaration.value = some e) :
    CodeOf members (.expr e)

/-- The expression stands somewhere in the code of the members. -/
def OccursIn (members : List Member) (e : Expr) : Prop := ∃ code, CodeOf members code ∧ Contains code (.expr e)

/-! ## What is gathered from code -/

/-- All expressions of the initial value of a variable with a name. -/
def variableWalk (v : VariableDef) : List Expr := if v.name.isSome then (v.value.map Expr.walk).getD [] else []

/-- All expressions in the code of a member. -/
def codeWalk : Member → List Expr
  | .function f => if (functionName? f).isSome then bodyWalk f.body else []
  | .state _ declared => declared.flatMap variableWalk
  | .modifier m => if m.name.isSome then bodyWalk m.body else []
  | .event _ | .unrecognized _ => []

/-- The facts take the names from the list of these expressions. -/
structure MemberFacts.NamesOf (facts : MemberFacts) (es : List Expr) : Prop where
  identifiers : facts.identifiers = Facts.identifiers es
  calledNames : facts.calledNames = Facts.calledNames es

theorem MemberFacts.namesOf_nil : NamesOf {} [] := ⟨rfl, rfl⟩

theorem MemberFacts.NamesOf.append {a b : MemberFacts} {front back : List Expr} (ha : a.NamesOf front)
    (hb : b.NamesOf back) : (a.append b).NamesOf (front ++ back) := by
  constructor
  · rw [Facts.identifiers, List.filterMap_append]
    exact congrArg₂ _ ha.identifiers hb.identifiers
  · rw [Facts.calledNames, List.filterMap_append]
    exact congrArg₂ _ ha.calledNames hb.calledNames

theorem MemberFacts.namesOf_flatMap {α : Type} {facts : α → MemberFacts} {walk : α → List Expr}
    (h : ∀ a, (facts a).NamesOf (walk a)) (as : List α) :
    ((as.map facts).foldr MemberFacts.append {}).NamesOf (as.flatMap walk) := by
  induction as with
  | nil => exact namesOf_nil
  | cons a as ih => exact (h a).append ih

theorem Scope.namesOf_variable (scope : Scope) (v : VariableDef) : (scope.variable v).NamesOf (variableWalk v) := by
  unfold Scope.variable variableWalk
  cases v.name <;> exact ⟨rfl, rfl⟩

theorem Scope.namesOf_member (scope : Scope) (m : Member) : (scope.member m).NamesOf (codeWalk m) := by
  cases m with
  | function f =>
    simp only [Scope.member, codeWalk]
    cases functionName? f <;> exact ⟨rfl, rfl⟩
  | state p declared => exact MemberFacts.namesOf_flatMap scope.namesOf_variable declared
  | event e =>
    simp only [Scope.member, codeWalk]
    cases e.name <;> exact ⟨rfl, rfl⟩
  | modifier m =>
    simp only [Scope.member, codeWalk]
    cases m.name <;> exact ⟨rfl, rfl⟩
  | unrecognized node => exact MemberFacts.namesOf_nil

theorem mem_bodyWalk {body : Option Block} {e : Expr} :
    e ∈ bodyWalk body ↔ ∃ b, body = some b ∧ Contains (.sequence b.statements) (.expr e) := by
  cases body with
  | none => simp [bodyWalk]
  | some b =>
    have hwalk : e ∈ bodyWalk (some b) ↔ Contains (.sequence b.statements) (.expr e) :=
      mem_walk_iff_contains (f := .sequence b.statements)
    simp [hwalk]

theorem mem_bodyWalk_declaration {f : NamedFunction} {e : Expr} :
    e ∈ bodyWalk f.declaration.body ↔ Contains (.sequence f.statements) (.expr e) := by
  rw [← mem_walk_iff_contains, NamedFunction.statements]
  cases f.declaration.body <;> rfl

theorem mem_variableWalk {v : VariableDef} {e : Expr} : e ∈ variableWalk v ↔
    ∃ name value, v.name = some name ∧ v.value = some value ∧ Contains (.expr value) (.expr e) := by
  have hwalk : ∀ value : Expr, e ∈ value.walk ↔ Contains (.expr value) (.expr e) :=
    fun value => mem_walk_iff_contains (f := .expr value)
  unfold variableWalk
  cases v.name <;> cases v.value <;> simp [hwalk]

theorem mem_codeWalk {members : List Member} {e : Expr} : e ∈ members.flatMap codeWalk ↔ OccursIn members e := by
  rw [List.mem_flatMap]
  constructor
  · rintro ⟨m, hm, h⟩
    cases m with
    | function f =>
      rw [codeWalk] at h
      split at h
      · next hsome =>
        obtain ⟨name, hname⟩ := Option.isSome_iff_exists.mp hsome
        have hf : (⟨name, f⟩ : NamedFunction) ∈ namedFunctions members :=
          List.mem_filterMap.mpr ⟨_, hm, by simp [hname]⟩
        exact ⟨_, .function hf, mem_bodyWalk_declaration.mp h⟩
      · cases h
    | state p declared =>
      obtain ⟨v, hv, h⟩ := List.mem_flatMap.mp h
      obtain ⟨name, value, hname, hvalue, hcontains⟩ := mem_variableWalk.mp h
      have hnamed : (⟨name, v⟩ : NamedVariable) ∈ namedVariables members :=
        List.mem_flatMap.mpr ⟨_, hm, List.mem_filterMap.mpr ⟨v, hv, by simp [hname]⟩⟩
      exact ⟨_, .value hnamed hvalue, hcontains⟩
    | modifier m =>
      rw [codeWalk] at h
      split at h
      · next hname =>
        obtain ⟨body, hbody, hcontains⟩ := mem_bodyWalk.mp h
        exact ⟨_, .modifier hm hname hbody, hcontains⟩
      · cases h
    | event | unrecognized => cases h
  · rintro ⟨code, hcode, hcontains⟩
    cases hcode with
    | function hf =>
      obtain ⟨m, hm, hnamed⟩ := List.mem_filterMap.mp hf
      refine ⟨m, hm, ?_⟩
      cases m with
      | function f =>
        obtain ⟨name, hname, rfl⟩ := Option.map_eq_some_iff.mp hnamed
        rw [codeWalk, if_pos (by simp [hname])]
        exact mem_bodyWalk_declaration.mpr hcontains
      | _ => cases hnamed
    | modifier hm hname hbody =>
      refine ⟨_, hm, ?_⟩
      rw [codeWalk, if_pos hname]
      exact mem_bodyWalk.mpr ⟨_, hbody, hcontains⟩
    | value hv hvalue =>
      obtain ⟨m, hm, hdeclared⟩ := List.mem_flatMap.mp hv
      refine ⟨m, hm, ?_⟩
      cases m with
      | state p declared =>
        obtain ⟨v, hmem, hnamed⟩ := List.mem_filterMap.mp hdeclared
        obtain ⟨name, hname, rfl⟩ := Option.map_eq_some_iff.mp hnamed
        exact List.mem_flatMap.mpr ⟨v, hmem, mem_variableWalk.mpr ⟨name, _, hname, hvalue, hcontains⟩⟩
      | _ => cases hdeclared

theorem Scope.namesOf_members (scope : Scope) (members : List Member) :
    (scope.members members).NamesOf (members.flatMap codeWalk) :=
  MemberFacts.namesOf_flatMap scope.namesOf_member members

/-! ## Identifiers and calls -/

theorem exists_of_calledName? {e : Expr} {name : String} (h : e.calledName? = some name) :
    ∃ p q options arguments, e = .call p (.identifier q name) options arguments := by
  cases e with
  | call p callee options arguments =>
    obtain ⟨q, rfl⟩ := exists_of_identifier? h
    exact ⟨p, q, options, arguments, rfl⟩
  | _ => cases h

variable {file name : String} {c : ContractDef} {facts : ContractFacts}

theorem mem_identifiers_codeWalk {members : List Member} :
    name ∈ identifiers (members.flatMap codeWalk) ↔ ∃ p, OccursIn members (.identifier p name) := by
  simp only [identifiers, List.mem_filterMap, mem_codeWalk]
  constructor
  · rintro ⟨e, he, hname⟩
    obtain ⟨p, rfl⟩ := exists_of_identifier? hname
    exact ⟨p, he⟩
  · rintro ⟨p, hp⟩
    exact ⟨_, hp, rfl⟩

theorem mem_identifiers (h : ofContract? file c = some facts) :
    name ∈ facts.identifiers ↔ ∃ p, OccursIn c.members (.identifier p name) := by
  obtain ⟨contract, -, rfl⟩ := Option.map_eq_some_iff.mp h
  rw [mem_nameSet, (Scope.namesOf_members _ _).identifiers, mem_identifiers_codeWalk]

theorem mem_calledNames (h : ofContract? file c = some facts) : name ∈ facts.calledNames ↔
    ∃ p q options arguments, OccursIn c.members (.call p (.identifier q name) options arguments) := by
  obtain ⟨contract, -, rfl⟩ := Option.map_eq_some_iff.mp h
  rw [mem_nameSet, (Scope.namesOf_members _ _).calledNames, calledNames, List.mem_filterMap]
  simp only [mem_codeWalk]
  constructor
  · rintro ⟨e, he, hname⟩
    obtain ⟨p, q, options, arguments, rfl⟩ := exists_of_calledName? hname
    exact ⟨p, q, options, arguments, he⟩
  · rintro ⟨p, q, options, arguments, hcall⟩
    exact ⟨_, hcall, rfl⟩

theorem calledNames_subset (h : ofContract? file c = some facts) : facts.calledNames ⊆ facts.identifiers := by
  intro called hcalled
  obtain ⟨p, q, options, arguments, code, hcode, hcontains⟩ := (mem_calledNames h).mp hcalled
  exact (mem_identifiers h).mpr ⟨q, code, hcode, hcontains.tail .callee⟩

/-! ## Comparisons with the zero address -/

/-- The expression `address(0)`; blanks around the digit do not count. -/
inductive ZeroAddress : Expr → Prop
  | conversion {p q r : Position} {options : List Expr} {text : String} (h : Text.trim text = "0") :
    ZeroAddress (.call p (.identifier q "address") options [.literal r text])

/-- A comparison of the zero address with something that mentions the name. -/
inductive ComparesWithZero (name : String) : Expr → Prop
  | left {p q : Position} {left right : Expr} {operator : String} (hoperator : operator = "==" ∨ operator = "!=")
    (hzero : ZeroAddress right) (hname : Contains (.expr left) (.expr (.identifier q name))) :
    ComparesWithZero name (.binary p left operator right)
  | right {p q : Position} {left right : Expr} {operator : String} (hoperator : operator = "==" ∨ operator = "!=")
    (hzero : ZeroAddress left) (hname : Contains (.expr right) (.expr (.identifier q name))) :
    ComparesWithZero name (.binary p left operator right)

theorem isZeroAddress_iff {e : Expr} : isZeroAddress e = true ↔ ZeroAddress e := by
  constructor
  · intro h
    unfold isZeroAddress at h
    split at h
    · rw [Bool.and_eq_true, beq_iff_eq, beq_iff_eq] at h
      obtain ⟨hcallee, htext⟩ := h
      obtain ⟨q, rfl⟩ := exists_of_identifier? hcallee
      exact .conversion htext
    · cases h
  · rintro ⟨h⟩
    simp [isZeroAddress, Expr.identifier?, h]

theorem mentions_iff_contains {e : Expr} {name : String} :
    e.mentions name = true ↔ ∃ q, Contains (.expr e) (.expr (.identifier q name)) := by
  simp only [mentions_iff, ← mem_walk_iff_contains, Fragment.walk_expr]

theorem comparesWithZero_iff {name : String} {e : Expr} :
    comparesWithZero name e = true ↔ ComparesWithZero name e := by
  have hbinary : ∀ (p : Position) (left right : Expr) (operator : String),
      comparesWithZero name (.binary p left operator right) = true ↔ (operator = "==" ∨ operator = "!=") ∧
        (ZeroAddress right ∧ (∃ q, Contains (.expr left) (.expr (.identifier q name))) ∨
          ZeroAddress left ∧ ∃ q, Contains (.expr right) (.expr (.identifier q name))) := by
    intro p left right operator
    simp only [comparesWithZero, Bool.and_eq_true, Bool.or_eq_true, beq_iff_eq, isZeroAddress_iff,
      mentions_iff_contains]
  constructor
  · intro h
    cases e with
    | binary p left operator right =>
      obtain ⟨hoperator, ⟨hzero, q, hname⟩ | ⟨hzero, q, hname⟩⟩ := (hbinary p left right operator).mp h
      · exact .left hoperator hzero hname
      · exact .right hoperator hzero hname
    | _ => cases h
  · intro h
    cases h with
    | left hoperator hzero hname => exact (hbinary _ _ _ _).mpr ⟨hoperator, .inl ⟨hzero, _, hname⟩⟩
    | right hoperator hzero hname => exact (hbinary _ _ _ _).mpr ⟨hoperator, .inr ⟨hzero, _, hname⟩⟩

theorem isZeroChecked_iff {body : Block} {name : String} : isZeroChecked body name = true ↔
    ∃ e, Contains (.sequence body.statements) (.expr e) ∧ ComparesWithZero name e := by
  have hwalk : ∀ e, e ∈ body.walk ↔ Contains (.sequence body.statements) (.expr e) :=
    fun e => mem_walk_iff_contains (f := .sequence body.statements)
  simp only [isZeroChecked, List.any_eq_true, hwalk, comparesWithZero_iff]

theorem Scope.mem_zeroChecked (scope : Scope) (f : NamedFunction) {name : String} :
    name ∈ (scope.function f.declaration f.name).zeroChecked ↔
      (∃ slot ∈ f.declaration.parameters, slot.name = some name) ∧ name ≠ "" ∧
        ∃ e, Contains (.sequence f.statements) (.expr e) ∧ ComparesWithZero name e := by
  have hslot : ∀ slot : Slot, name ≠ "" → ((Parameter.ofSlot slot).name = name ↔ slot.name = some name) := by
    intro slot hne
    have hparameter : (Parameter.ofSlot slot).name = slot.name.getD "" := rfl
    rw [hparameter]
    cases hname : slot.name with
    | none => simpa using hne.symm
    | some n => simp
  cases hbody : f.declaration.body with
  | none =>
    constructor
    · intro h
      simp [Scope.function, hbody] at h
    · rintro ⟨-, -, e, hcontains, -⟩
      have hnone := mem_bodyWalk_declaration.mpr hcontains
      rw [hbody] at hnone
      cases hnone
  | some body =>
    have hstatements : f.statements = body.statements := by simp [NamedFunction.statements, hbody]
    have hchecked : (scope.function f.declaration f.name).zeroChecked =
        ((f.declaration.parameters.map Parameter.ofSlot).filter fun p =>
          !p.name.isEmpty && isZeroChecked body p.name).map (·.name) := by simp [Scope.function, hbody]
    rw [hchecked, hstatements, ← isZeroChecked_iff, List.mem_map]
    constructor
    · rintro ⟨p, hp, rfl⟩
      obtain ⟨hp, hcheck⟩ := List.mem_filter.mp hp
      obtain ⟨slot, hslotmem, rfl⟩ := List.mem_map.mp hp
      rw [Bool.and_eq_true, Bool.not_eq_true', String.isEmpty_eq_false_iff] at hcheck
      exact ⟨⟨slot, hslotmem, (hslot slot hcheck.1).mp rfl⟩, hcheck⟩
    · rintro ⟨⟨slot, hslotmem, hname⟩, hne, hcheck⟩
      have hparameter := (hslot slot hne).mpr hname
      refine ⟨Parameter.ofSlot slot, List.mem_filter.mpr ⟨List.mem_map_of_mem hslotmem, ?_⟩, hparameter⟩
      rw [hparameter, Bool.and_eq_true, Bool.not_eq_true', String.isEmpty_eq_false_iff]
      exact ⟨hne, hcheck⟩

end ContractAudit.Facts
