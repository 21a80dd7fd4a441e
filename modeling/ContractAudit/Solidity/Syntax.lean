import ContractAudit.Text.Lines

/-!
# Contract sources as typed trees

Pragmas, contracts and their members, statements and expressions. A shape that has no constructor of its own is kept
as `unrecognized`, together with the statements and expressions found below it, so that a traversal still reaches
everything a file contains.
-/

namespace ContractAudit.Solidity

open Text (Position)

inductive TypeName where
  | elementary (name : String)
  | userDefined (path : List String)
  | mapping (key value : TypeName)
  | array (base : TypeName)
  | unrecognized (text : String)
deriving DecidableEq, Repr, Inhabited

/-- A parameter, or one slot of a variable declaration. A slot that a tuple skips has no part at all. -/
structure Slot where
  name : Option String
  type : Option TypeName
  storage : Option String
deriving DecidableEq, Repr, Inhabited

def Slot.skipped : Slot := ⟨none, none, none⟩

mutual

/-- Every expression carries the place where it starts. -/
inductive Expr where
  | identifier (pos : Position) (name : String)
  | literal (pos : Position) (text : String)
  | member (pos : Position) (object : Expr) (name : String)
  | call (pos : Position) (callee : Expr) (options arguments : List Expr)
  | index (pos : Position) (base : Expr) (key : Option Expr)
  | binary (pos : Position) (left : Expr) (operator : String) (right : Expr)
  | assignment (pos : Position) (left : Expr) (operator : String) (right : Expr)
  | unary (pos : Position) (operator : String) (operand : Expr)
  | conditional (pos : Position) (test yes no : Expr)
  | tuple (pos : Position) (items : List Expr)
  | unrecognized (pos : Position) (kind : String) (statements : List Stmt) (expressions : List Expr)

inductive Stmt where
  | block (pos : Position) (body : List Stmt)
  | unchecked (pos : Position) (body : List Stmt)
  | expression (value : Expr)
  | declaration (pos : Position) (slots : List Slot) (value : Option Expr)
  | branch (test : Expr) (yes : Stmt) (no : Option Stmt)
  | forLoop (start : Option Stmt) (test update : Option Expr) (body : Stmt)
  | whileLoop (test : Expr) (body : Stmt)
  | doLoop (body : Stmt) (test : Expr)
  | returns (value : Option Expr)
  | emit (pos : Position) (event : Expr) (arguments : List Expr)
  | revert (error : Option Expr) (arguments : List Expr)
  | unrecognized (pos : Position) (kind : String) (statements : List Stmt) (expressions : List Expr)

end

instance : Inhabited Expr := ⟨.tuple ⟨0, 0⟩ []⟩

instance : Inhabited Stmt := ⟨.block ⟨0, 0⟩ []⟩

/-- The statements between two braces. -/
structure Block where
  pos : Position
  statements : List Stmt
deriving Inhabited

/-- A node without a constructor of its own, with what was found below it. -/
structure Carried where
  pos : Position
  kind : String
  statements : List Stmt
  expressions : List Expr
deriving Inhabited

def Carried.expr (c : Carried) : Expr := .unrecognized c.pos c.kind c.statements c.expressions

def Carried.stmt (c : Carried) : Stmt := .unrecognized c.pos c.kind c.statements c.expressions

/-! ## Declarations -/

inductive FunctionKind where
  | function
  | constructor
  | fallback
  | receive
deriving DecidableEq, Repr

structure FunctionDef where
  kind : FunctionKind
  name : Option String
  visibility : Option String
  mutability : Option String
  modifiers : List String
  parameters : List Slot
  returns : List Slot
  body : Option Block
  pos : Position

structure VariableDef where
  name : Option String
  type : Option TypeName
  visibility : Option String
  constant : Bool
  value : Option Expr
  pos : Position

structure EventDef where
  name : Option String
  parameters : List Slot
  pos : Position

structure ModifierDef where
  name : Option String
  parameters : List Slot
  body : Option Block
  pos : Position

inductive Member where
  | function (f : FunctionDef)
  | state (pos : Position) (declared : List VariableDef)
  | event (e : EventDef)
  | modifier (m : ModifierDef)
  | unrecognized (node : Carried)

inductive ContractKind where
  | contract
  | abstract
  | interface
  | library
deriving DecidableEq, Repr

structure ContractDef where
  kind : ContractKind
  name : Option String
  bases : List String
  members : List Member
  pos : Position
  start : Nat
  stop : Nat

/-- The line `pragma name value;`. -/
structure Pragma where
  name : String
  value : String
  pos : Position
deriving DecidableEq, Repr

inductive Item where
  | pragma (p : Pragma)
  | contract (c : ContractDef)
  | unrecognized (node : Carried)

/-- One source file. -/
structure SourceUnit where
  items : List Item

namespace SourceUnit

def contracts (unit : SourceUnit) : List ContractDef :=
  unit.items.filterMap fun
    | .contract c => some c
    | _ => none

def pragmas (unit : SourceUnit) : List Pragma :=
  unit.items.filterMap fun
    | .pragma p => some p
    | _ => none

/-- The first pragma on the compiler version. -/
def compilerPragma? (unit : SourceUnit) : Option Pragma := unit.pragmas.find? (·.name == "solidity")

/-- The name of the first contract whose bytes contain the offset. -/
def contractAt? (unit : SourceUnit) (offset : Nat) : Option String :=
  (unit.contracts.find? fun c => c.start ≤ offset && offset < c.stop).bind (·.name)

end SourceUnit

/-- A type as it is written, `unknown` where that is not known. -/
def TypeName.render : TypeName → String
  | elementary name => if name.isEmpty then "unknown" else name
  | userDefined path => if path.isEmpty then "unknown" else String.intercalate "." path
  | mapping key value => "mapping(" ++ key.render ++ " => " ++ value.render ++ ")"
  | array base => base.render ++ "[]"
  | unrecognized _ => "unknown"

def renderType (type : Option TypeName) : String := (type.map TypeName.render).getD "unknown"

end ContractAudit.Solidity
