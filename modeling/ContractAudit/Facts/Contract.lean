import ContractAudit.Facts.Calls
import ContractAudit.Finding.Basic

/-!
# Facts about contracts

One record per named contract: its functions, state variables, events and modifiers, the low-level calls of its
functions, and the names that its code refers to. A declaration without a name contributes nothing.
-/

namespace ContractAudit.Facts

open Solidity

/-! ## Sets of names -/

/-- Puts a name into an increasing list, unless it is there. -/
def insertName (name : String) : List String → List String
  | [] => [name]
  | n :: ns => if name < n then name :: n :: ns else if name = n then n :: ns else n :: insertName name ns

/-- The names in increasing order, each once. -/
def nameSet (names : List String) : List String := names.foldr insertName []

/-! ## Bodies -/

/-- The name of the event that a statement emits. -/
def emittedName? : Stmt → Option String
  | .emit _ event _ =>
    match event with
    | .identifier _ name => some name
    | .member _ _ name => some name
    | _ => none
  | _ => none

/-- The events that a body emits, each once, in the order of their first statements. -/
def emittedEvents (body : Block) : List String := ((nestedAll body.statements).filterMap emittedName?).eraseDups

/-- The expression `address(0)`. -/
def isZeroAddress : Expr → Bool
  | .call _ callee _ [.literal _ text] => callee.identifier? == some "address" && Text.trim text == "0"
  | _ => false

/-- A comparison of the name with the zero address. -/
def comparesWithZero (name : String) : Expr → Bool
  | .binary _ left operator right =>
    (operator == "==" || operator == "!=") &&
      ((isZeroAddress right && left.mentions name) || (isZeroAddress left && right.mentions name))
  | _ => false

def isZeroChecked (body : Block) (name : String) : Bool := body.walk.any (comparesWithZero name)

/-- The identifiers among some expressions. -/
def identifiers (es : List Expr) : List String := es.filterMap Expr.identifier?

/-- The names called among some expressions. -/
def calledNames (es : List Expr) : List String := es.filterMap Expr.calledName?

/-! ## Records -/

structure Parameter where
  name : String
  type : String
deriving DecidableEq, Repr

def Parameter.ofSlot (slot : Slot) : Parameter := ⟨slot.name.getD "", renderType slot.type⟩

structure FunctionFacts where
  name : String
  visibility : String
  modifiers : List String
  parameters : List Parameter
  returns : List Parameter
  mutability : String
  location : Location
  hasBody : Bool
  /-- Names of the events that the body emits. -/
  emits : List String
  /-- Parameters that the body compares with the zero address. -/
  zeroChecked : List String
deriving DecidableEq, Repr

namespace FunctionFacts

def isExternallyCallable (f : FunctionFacts) : Bool := f.visibility == "public" || f.visibility == "external"

def isReadOnly (f : FunctionFacts) : Bool := f.mutability == "view" || f.mutability == "pure"

def hasModifier (f : FunctionFacts) (name : String) : Bool := f.modifiers.contains name

end FunctionFacts

structure VariableFacts where
  name : String
  type : String
  visibility : String
  hasValue : Bool
  constant : Bool
  location : Location
deriving DecidableEq, Repr

/-- An event or a modifier. -/
structure SignatureFacts where
  name : String
  parameters : List Parameter
  location : Location
deriving DecidableEq, Repr

/-- A low-level call with the function and the contract around it. -/
structure ExternalCall where
  kind : CallKind
  location : Location
  checked : Bool
deriving DecidableEq, Repr

/-- What the members of a contract contribute. -/
structure MemberFacts where
  functions : List FunctionFacts := []
  stateVariables : List VariableFacts := []
  events : List SignatureFacts := []
  modifiers : List SignatureFacts := []
  calls : List ExternalCall := []
  /-- Identifiers in bodies and initial values, as often as they occur. -/
  identifiers : List String := []
  /-- Names called there, as often as they occur. -/
  calledNames : List String := []

def MemberFacts.append (a b : MemberFacts) : MemberFacts where
  functions := a.functions ++ b.functions
  stateVariables := a.stateVariables ++ b.stateVariables
  events := a.events ++ b.events
  modifiers := a.modifiers ++ b.modifiers
  calls := a.calls ++ b.calls
  identifiers := a.identifiers ++ b.identifiers
  calledNames := a.calledNames ++ b.calledNames

structure ContractFacts where
  name : String
  kind : ContractKind
  bases : List String
  location : Location
  functions : List FunctionFacts
  stateVariables : List VariableFacts
  events : List SignatureFacts
  modifiers : List SignatureFacts
  calls : List ExternalCall
  /-- Every identifier of function and modifier bodies and of initial values, in increasing order. -/
  identifiers : List String
  /-- Every name called there, in increasing order. -/
  calledNames : List String
deriving DecidableEq, Repr

/-- The low-level calls of the functions of that name. -/
def ContractFacts.callsIn (c : ContractFacts) (function : String) : List ExternalCall :=
  c.calls.filter fun call => call.location.function == some function

/-! ## Extraction -/

/-- Where facts are gathered: a file and a contract in it. -/
structure Scope where
  file : String
  contract : String

def Scope.location (scope : Scope) (pos : Text.Position) : Location :=
  (Location.ofPosition scope.file pos).inContract scope.contract

/-- The name under which a function is known; constructor, fallback and receive functions have fixed ones. -/
def functionName? (f : FunctionDef) : Option String :=
  match f.kind with
  | .function => f.name
  | .constructor => some "constructor"
  | .fallback => some "<fallback>"
  | .receive => some "<receive>"

def mutabilityName : Option String → String
  | some "constant" => "view"
  | some other => other
  | none => "nonpayable"

/-- The low-level calls of a function body. -/
def Scope.bodyCalls (scope : Scope) (function : String) (body : Option Block) : List ExternalCall :=
  match body with
  | some b => (blockCalls b.statements).map fun c =>
      ⟨c.kind, (scope.location c.pos).inFunction function, c.checked⟩
  | none => []

def Scope.function (scope : Scope) (f : FunctionDef) (name : String) : FunctionFacts :=
  let parameters := f.parameters.map Parameter.ofSlot
  { name
    visibility := f.visibility.getD "public"
    modifiers := f.modifiers
    parameters
    returns := f.returns.map Parameter.ofSlot
    mutability := mutabilityName f.mutability
    location := (scope.location f.pos).inFunction name
    hasBody := f.body.isSome
    emits := (f.body.map emittedEvents).getD []
    zeroChecked := match f.body with
      | some b => (parameters.filter fun p => !p.name.isEmpty && isZeroChecked b p.name).map (·.name)
      | none => [] }

/-- All expressions of an optional body. -/
def bodyWalk (body : Option Block) : List Expr := (body.map Block.walk).getD []

def Scope.variable (scope : Scope) (v : VariableDef) : MemberFacts :=
  match v.name with
  | none => {}
  | some name =>
    let value := (v.value.map Expr.walk).getD []
    { stateVariables := [⟨name, renderType v.type, v.visibility.getD "internal", v.value.isSome, v.constant,
        scope.location v.pos⟩]
      identifiers := Facts.identifiers value
      calledNames := Facts.calledNames value }

def Scope.member (scope : Scope) : Member → MemberFacts
  | .function f =>
    match functionName? f with
    | none => {}
    | some name =>
      { functions := [scope.function f name]
        calls := scope.bodyCalls name f.body
        identifiers := Facts.identifiers (bodyWalk f.body)
        calledNames := Facts.calledNames (bodyWalk f.body) }
  | .state _ declared => (declared.map scope.variable).foldr MemberFacts.append {}
  | .event e =>
    match e.name with
    | none => {}
    | some name => { events := [⟨name, e.parameters.map Parameter.ofSlot, scope.location e.pos⟩] }
  | .modifier m =>
    match m.name with
    | none => {}
    | some name =>
      { modifiers := [⟨name, m.parameters.map Parameter.ofSlot, scope.location m.pos⟩]
        identifiers := Facts.identifiers (bodyWalk m.body)
        calledNames := Facts.calledNames (bodyWalk m.body) }
  | .unrecognized _ => {}

def Scope.members (scope : Scope) (members : List Member) : MemberFacts :=
  (members.map scope.member).foldr MemberFacts.append {}

/-- The facts of a contract, if it has a name. -/
def ofContract? (file : String) (c : ContractDef) : Option ContractFacts :=
  c.name.map fun name =>
    let scope : Scope := ⟨file, name⟩
    let facts := scope.members c.members
    { name
      kind := c.kind
      bases := c.bases
      location := scope.location c.pos
      functions := facts.functions
      stateVariables := facts.stateVariables
      events := facts.events
      modifiers := facts.modifiers
      calls := facts.calls
      identifiers := nameSet facts.identifiers
      calledNames := nameSet facts.calledNames }

/-- The facts of all named contracts, in source order. -/
def ofUnit (file : String) (unit : SourceUnit) : List ContractFacts := unit.contracts.filterMap (ofContract? file)

end ContractAudit.Facts
