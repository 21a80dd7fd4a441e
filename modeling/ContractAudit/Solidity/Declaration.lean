import ContractAudit.Solidity.Reading

/-!
# Declarations of a syntax tree

Pragmas, contracts and their members as they are read off the nodes of a tree, and the whole source unit. A source is
refused only if it has errors and nothing at its top level was recognized.
-/

namespace ContractAudit.Solidity

open ContractAudit.Tree (Head Node)

namespace Site

/-- The words `pragma` in front and the semicolons behind do not count; the first blank ends the name. -/
def pragma (s : Site) : Pragma :=
  let cs := Text.trimChars s.text.toList
  let body := Text.trimChars (Text.dropWhileEnd (· == ';') (Text.dropFronts "pragma".toList cs.length cs))
  match Text.splitFirst? Text.isBlank body with
  | some (name, value) => ⟨String.ofList name, String.ofList (Text.trimChars value), s.pos⟩
  | none => ⟨String.ofList body, "", s.pos⟩

def isParameterList (kind : String) : Bool := Text.endsWith kind "parameter_list" || kind == "parameters"

/-- The parameters directly below a node or inside a list directly below it. -/
def parameters (s : Site) : List Slot :=
  s.parts.flatMap fun r =>
    if r.kind == "parameter" then [(s.below r).slot]
    else if isParameterList r.kind then ((s.below r).partsOfKind "parameter").map fun p => (s.below p).slot
    else []

def body? (s : Site) : Option Block :=
  ((s.role? "body").or (s.partsOfKind "function_body").head?).map fun r => (s.below r).block

def visibility? (s : Site) : Option String :=
  s.wordAmong? "visibility" ["public", "external", "internal", "private"]

def mutability? (s : Site) : Option String :=
  s.wordAmong? "state_mutability" ["pure", "view", "payable", "constant"]

def functionKind (s : Site) : FunctionKind :=
  match s.kind with
  | "constructor_definition" => .constructor
  | "fallback_receive_definition" => if s.hasToken "receive" then .receive else .fallback
  | _ => .function

/-- The dotted names of the modifiers that a function invokes. -/
def invokedModifiers (s : Site) : List String :=
  (s.partsOfKind "modifier_invocation").filterMap fun r =>
    match ((s.below r).partsOfKind "identifier").map s.textOf with
    | [] => none
    | path => some (String.intercalate "." path)

def function (s : Site) : FunctionDef where
  kind := s.functionKind
  name := if s.functionKind = .function then s.roleText? "name" else none
  visibility := s.visibility?
  mutability := s.mutability?
  modifiers := s.invokedModifiers
  parameters := s.parameters
  returns := ((s.partsOfKind "return_type_definition").head?.map fun r => (s.below r).parameters).getD []
  body := s.body?
  pos := s.pos

def stateVariable (s : Site) : VariableDef where
  name := s.roleText? "name"
  type := (s.role? "type").map (·.type)
  visibility := s.visibility?
  constant := s.hasToken "constant" || s.hasToken "immutable"
  value := (s.role? "value").map (·.expr)
  pos := s.pos

def member (s : Site) : Member :=
  match s.kind with
  | "function_definition" | "constructor_definition" | "fallback_receive_definition" => .function s.function
  | "state_variable_declaration" => .state s.pos [s.stateVariable]
  | "event_definition" =>
    .event ⟨s.roleText? "name", (s.partsOfKind "event_parameter").map fun r => (s.below r).slot, s.pos⟩
  | "modifier_definition" => .modifier ⟨s.roleText? "name", s.parameters, s.body?, s.pos⟩
  | _ => .unrecognized s.carried

def contractKind (s : Site) : ContractKind :=
  match s.kind with
  | "interface_declaration" => .interface
  | "library_declaration" => .library
  | _ => if s.hasToken "abstract" then .abstract else .contract

/-- The names behind `is`, without blanks. -/
def bases (s : Site) : List String :=
  (s.partsOfKind "inheritance_specifier").filterMap fun r =>
    (((s.below r).role? "ancestor").or (s.below r).parts.head?).map fun a => Text.compact (s.textOf a)

def contract (s : Site) : ContractDef where
  kind := s.contractKind
  name := s.roleText? "name"
  bases := s.bases
  members := ((s.role? "body").map fun r => (s.below r).parts.map fun m => (s.below m).member).getD []
  pos := s.pos
  start := s.head.start
  stop := s.head.stop

def item (s : Site) : Item :=
  match s.kind with
  | "pragma_directive" => .pragma s.pragma
  | "contract_declaration" | "interface_declaration" | "library_declaration" => .contract s.contract
  | _ => .unrecognized s.carried

end Site

def Item.isRecognized : Item → Bool
  | .unrecognized _ => false
  | _ => true

/-- The declarations of a tree, errors or not. -/
def SourceUnit.ofReading (source : List Char) (root : Reading) : SourceUnit :=
  ⟨(root.site source).parts.map fun r => (r.site source).item⟩

/-- A source in which nothing was recognized; the line of the first error. -/
structure SyntaxError where
  line : Nat
deriving DecidableEq, Repr

def SyntaxError.message (e : SyntaxError) : String := "syntax error near line " ++ toString e.line

/-- The source unit of a tree, unless it has errors and no recognized item. -/
def SourceUnit.ofTree (source : List Char) (root : Node) : Except SyntaxError SourceUnit :=
  let unit := SourceUnit.ofReading source (Reading.ofNode source root)
  if root.head.hasError && !unit.items.any (·.isRecognized) then
    .error ⟨(root.firstError?.map fun h => (h.pos source).line).getD 1⟩
  else .ok unit

end ContractAudit.Solidity
