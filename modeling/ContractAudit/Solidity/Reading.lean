import ContractAudit.Tree.Node
import ContractAudit.Text.Blank
import ContractAudit.Solidity.Syntax

/-!
# Reading a syntax tree

Every node can be read as a type, as a statement, as an expression, and as what a call calls. `Reading.ofNode`
computes all four for every node from those of its children, so that a definition about a node may look at any node
below it. Children that are comments are never looked at as parts.
-/

namespace ContractAudit.Solidity

open Text (Position)
open ContractAudit.Tree (Head Node)

/-- What a call calls: `target{options}`. -/
structure Callee where
  target : Expr
  options : List Expr

/-- The four ways to read a node. -/
structure Forms where
  type : TypeName
  stmt : Stmt
  expr : Expr
  callee : Callee

/-- A node with its forms. -/
inductive Reading where
  | mk (head : Head) (forms : Forms) (children : List Reading)

/-- A node under construction: its children have been read. -/
structure Site where
  source : List Char
  head : Head
  children : List Reading

/-! ## Looking around -/

namespace Reading

def head : Reading → Head
  | mk head .. => head

def forms : Reading → Forms
  | mk _ forms _ => forms

def children : Reading → List Reading
  | mk _ _ children => children

def kind (r : Reading) : String := r.head.kind

def type (r : Reading) : TypeName := r.forms.type

def stmt (r : Reading) : Stmt := r.forms.stmt

def expr (r : Reading) : Expr := r.forms.expr

def site (source : List Char) (r : Reading) : Site := ⟨source, r.head, r.children⟩

end Reading

namespace Site

def kind (s : Site) : String := s.head.kind

def pos (s : Site) : Position := s.head.pos s.source

def text (s : Site) : String := String.ofList (s.head.text s.source)

def textOf (s : Site) (r : Reading) : String := String.ofList (r.head.text s.source)

def trimmedTextOf (s : Site) (r : Reading) : String := Text.trim (s.textOf r)

/-- The children that carry meaning. -/
def parts (s : Site) : List Reading := s.children.filter (·.head.isPart)

def partsOfKind (s : Site) (kind : String) : List Reading := s.parts.filter (·.kind == kind)

/-- The child with a role. -/
def role? (s : Site) (role : String) : Option Reading := s.children.find? (·.head.roles.contains role)

/-- The trimmed text of the child with a role, unless it is empty. -/
def roleText? (s : Site) (role : String) : Option String :=
  ((s.role? role).map s.trimmedTextOf).filter fun t => !t.isEmpty

def hasToken (s : Site) (kind : String) : Bool := s.children.any (·.kind == kind)

/-- The first of the `words` that stands as a child: as a token of its own or inside a child of kind `wrapper`. -/
def wordAmong? (s : Site) (wrapper : String) (words : List String) : Option String :=
  s.children.findSome? fun child =>
    if child.kind == wrapper || words.contains child.kind then words.find? (· == s.trimmedTextOf child) else none

/-- The site of a child. -/
def below (s : Site) (r : Reading) : Site := r.site s.source

/-! ## Types -/

def type (s : Site) : TypeName :=
  match s.kind with
  | "primitive_type" => .elementary (Text.collapse s.text)
  | "user_defined_type" =>
    .userDefined ((Text.splitWhere (· == '.') (Text.compact s.text).toList).map String.ofList)
  | "type_name" =>
    match s.role? "key_type" with
    | some key => .mapping key.type (((s.role? "value_type").map (·.type)).getD (.unrecognized "mapping"))
    | none =>
      match s.parts.head? with
      | some inner => if s.hasToken "[" then .array inner.type else inner.type
      | none => .unrecognized s.text
  | "identifier" => .userDefined [s.text]
  | other => .unrecognized other

/-! ## Statements and expressions -/

def isStatementKind (kind : String) : Bool :=
  kind == "statement" || Text.endsWith kind "_statement" || kind == "unchecked_block" || kind == "function_body"

/-- The node as one that has no constructor, with the statements and expressions directly below it. -/
def carried (s : Site) : Carried where
  pos := s.pos
  kind := s.kind
  statements := (s.parts.filter fun r => isStatementKind r.kind).map (·.stmt)
  expressions := (s.parts.filter fun r => !isStatementKind r.kind).map (·.expr)

def block (s : Site) : Block := ⟨s.pos, s.parts.map (·.stmt)⟩

/-- The arguments of a call; one that is not a single expression is carried. -/
def arguments (s : Site) : List Expr :=
  (s.partsOfKind "call_argument").map fun r =>
    match (s.below r).parts with
    | [single] => single.expr
    | _ => (s.below r).carried.expr

/-- A parameter or a declared variable. -/
def slot (s : Site) : Slot where
  name := s.roleText? "name"
  type := (s.role? "type").map (·.type)
  storage := (s.roleText? "location").or (s.wordAmong? "" ["memory", "storage", "calldata"])

/-- The slots of a tuple. A comma or the closing bracket ends a slot, which is skipped if nothing was declared since
the last one; `filled` says whether something was. -/
def tupleSlots (s : Site) : Bool → List Reading → List Slot
  | _, [] => []
  | filled, r :: rest =>
    match r.kind with
    | "variable_declaration" => (s.below r).slot :: s.tupleSlots true rest
    | "identifier" => ⟨some (s.textOf r), none, none⟩ :: s.tupleSlots true rest
    | "," | ")" => if filled then s.tupleSlots false rest else .skipped :: s.tupleSlots false rest
    | _ => s.tupleSlots filled rest

/-- The slots of a variable declaration statement. -/
def slots (s : Site) : List Slot :=
  s.parts.flatMap fun r =>
    match r.kind with
    | "variable_declaration" => [(s.below r).slot]
    | "variable_declaration_tuple" => s.tupleSlots false r.children
    | _ => []

/-- The condition in the header of a for loop; a lone semicolon stands for none. -/
def loopTest? (s : Site) : Option Expr :=
  (s.role? "condition").bind fun r =>
    if r.kind == "expression_statement" then (s.below r).parts.head?.map (·.expr)
    else if r.head.named then some r.expr
    else none

def stmt (s : Site) : Stmt :=
  match s.kind with
  | "statement" => (s.parts.head?.map (·.stmt)).getD s.carried.stmt
  | "block_statement" | "function_body" => .block s.pos (s.parts.map (·.stmt))
  | "unchecked_block" =>
    let inner := ((s.partsOfKind "block_statement").head?.map fun r => (s.below r).block).getD s.block
    .unchecked inner.pos inner.statements
  | "expression_statement" => (s.parts.head?.map fun r => .expression r.expr).getD s.carried.stmt
  | "variable_declaration_statement" => .declaration s.pos s.slots ((s.role? "value").map (·.expr))
  | "if_statement" =>
    match s.role? "condition", s.role? "body" with
    | some test, some yes => .branch test.expr yes.stmt ((s.role? "else").map (·.stmt))
    | _, _ => s.carried.stmt
  | "for_statement" =>
    .forLoop (((s.role? "initial").filter (·.head.named)).map (·.stmt)) s.loopTest? ((s.role? "update").map (·.expr))
      (((s.role? "body").map (·.stmt)).getD (.block ⟨0, 0⟩ []))
  | "while_statement" =>
    match s.role? "condition", s.role? "body" with
    | some test, some body => .whileLoop test.expr body.stmt
    | _, _ => s.carried.stmt
  | "do_while_statement" =>
    match s.role? "condition", s.role? "body" with
    | some test, some body => .doLoop body.stmt test.expr
    | _, _ => s.carried.stmt
  | "return_statement" => .returns (s.parts.head?.map (·.expr))
  | "emit_statement" =>
    match s.role? "name" with
    | some event => .emit s.pos event.expr s.arguments
    | none => s.carried.stmt
  | "revert_statement" => .revert ((s.role? "error").map (·.expr)) s.arguments
  | _ => s.carried.stmt

/-- The operator of a binary node: the child with that role, else the text between the operands. -/
def operatorOf (s : Site) (left right : Reading) : String :=
  (s.roleText? "operator").getD
    (Text.trim (String.ofList (Text.slice s.source left.head.stop right.head.start)))

def isLiteralKind (kind : String) : Bool := Text.endsWith kind "_literal" || kind == "string"

/-- A conversion `uint(x)` or `payable(x)`, read as a call by name. -/
def conversion (s : Site) : Expr :=
  let name := match s.parts.head? with
    | some first => if first.kind == "primitive_type" then Text.compact (s.textOf first) else "payable"
    | none => "payable"
  .call s.pos (.identifier s.pos name) [] ((s.parts.filter (·.kind != "primitive_type")).map (·.expr))

def expr (s : Site) : Expr :=
  match s.kind with
  | "expression" | "parenthesized_expression" | "call_argument" =>
    match s.parts with
    | [single] => single.expr
    | _ => s.carried.expr
  | "identifier" => .identifier s.pos s.text
  | "primitive_type" | "user_defined_type" => .identifier s.pos (Text.compact s.text)
  | "member_expression" =>
    match s.role? "object", s.roleText? "property" with
    | some object, some name => .member s.pos object.expr name
    | _, _ => s.carried.expr
  | "call_expression" =>
    match s.role? "function" with
    | some function => .call s.pos function.forms.callee.target function.forms.callee.options s.arguments
    | none => s.carried.expr
  | "type_cast_expression" | "payable_conversion_expression" => s.conversion
  | "array_access" | "index_expression" =>
    match s.role? "base" with
    | some base => .index s.pos base.expr ((s.role? "index").map (·.expr))
    | none => s.carried.expr
  | "binary_expression" =>
    match s.role? "left", s.role? "right" with
    | some left, some right => .binary s.pos left.expr (s.operatorOf left right) right.expr
    | _, _ => s.carried.expr
  | "assignment_expression" | "augmented_assignment_expression" =>
    match s.role? "left", s.role? "right" with
    | some left, some right => .assignment s.pos left.expr (s.operatorOf left right) right.expr
    | _, _ => s.carried.expr
  | "unary_expression" | "update_expression" =>
    match (s.role? "argument").or s.parts.head? with
    | some operand => .unary s.pos ((s.roleText? "operator").getD "") operand.expr
    | none => s.carried.expr
  | "ternary_expression" =>
    match s.parts with
    | [test, yes, no] => .conditional s.pos test.expr yes.expr no.expr
    | _ => s.carried.expr
  | "tuple_expression" | "inline_array_expression" => .tuple s.pos (s.parts.map (·.expr))
  | kind => if isLiteralKind kind then .literal s.pos s.text else s.carried.expr

/-- The values of the options in `target{value: v, gas: g}`. -/
def options (s : Site) : List Expr :=
  (s.partsOfKind "struct_field_assignment").filterMap fun r =>
    (((s.below r).role? "value").or (s.below r).parts.getLast?).map (·.expr)

/-- What a call calls. Expression wrappers around a single expression are looked through. -/
def callee (s : Site) : Callee :=
  match s.kind with
  | "expression" =>
    match s.parts with
    | [single] => single.forms.callee
    | _ => ⟨s.expr, []⟩
  | "struct_expression" =>
    match (s.role? "type").or s.parts.head? with
    | some target => ⟨target.expr, s.options⟩
    | none => ⟨s.expr, []⟩
  | _ => ⟨s.expr, []⟩

def forms (s : Site) : Forms := ⟨s.type, s.stmt, s.expr, s.callee⟩

end Site

mutual

def Reading.ofNode (source : List Char) : Node → Reading
  | .mk head children =>
    let read := Reading.ofNodes source children
    .mk head (Site.forms ⟨source, head, read⟩) read

def Reading.ofNodes (source : List Char) : List Node → List Reading
  | [] => []
  | n :: ns => Reading.ofNode source n :: Reading.ofNodes source ns

end

end ContractAudit.Solidity
