import ContractAudit.Solidity.Walk

/-!
# Low-level calls

The calls of a function body through `call`, `delegatecall`, `send` and `transfer`, and whether each is checked. A
call is checked if it stands in a condition, in a returned value or in an argument of `require` or `assert`, or if its
status is bound to a variable that a later statement of the same list tests in such a place.
-/

namespace ContractAudit.Facts

open Text (Position)
open Solidity

inductive CallKind where
  | call
  | delegatecall
  | send
  | transfer
deriving DecidableEq, Repr

namespace CallKind

def label : CallKind → String
  | call => "call"
  | delegatecall => "delegatecall"
  | send => "send"
  | transfer => "transfer"

def ofMember? : String → Option CallKind
  | "call" => some call
  | "delegatecall" => some delegatecall
  | "send" => some send
  | "transfer" => some transfer
  | _ => none

/-- Failure is reported through a value; `transfer` reverts instead. -/
def returnsStatus : CallKind → Bool
  | transfer => false
  | _ => true

end CallKind

/-- A low-level call in a body. -/
structure CallSite where
  kind : CallKind
  pos : Position
  checked : Bool
deriving DecidableEq, Repr

/-- The kind of a low-level call, if the expression is one. -/
def lowLevel? (e : Expr) : Option CallKind := e.calledMember?.bind CallKind.ofMember?

/-- A call of `require` or `assert` by name. -/
def isGuard (e : Expr) : Bool :=
  match e.calledName? with
  | some name => name == "require" || name == "assert"
  | none => false

/-! ## Bound status -/

/-- The variable that receives the status of a low-level call, and the place of that call. -/
def boundStatus? (s : Stmt) : Option (String × Position) :=
  let bound : Option (String × Expr) :=
    match s with
    | .declaration _ slots (some value) => (slots.head?.bind (·.name)).map fun name => (name, value)
    | .expression (.assignment _ left _ right) =>
      let target := match left with
        | .tuple _ items => items.head?
        | _ => some left
      (target.bind Expr.identifier?).map fun name => (name, right)
    | _ => none
  bound.bind fun (name, value) =>
    ((lowLevel? value).filter CallKind.returnsStatus).map fun _ => (name, value.pos)

/-- The value that decides a statement: its condition, or what it returns. -/
def decisive? : Stmt → Option Expr
  | .branch test .. | .whileLoop test _ | .doLoop _ test => some test
  | .returns value => value
  | _ => none

/-- Does the expression mention the name in an argument of a guard? -/
def guardMentions (e : Expr) (name : String) : Bool :=
  e.walk.any fun x =>
    match x with
    | .call _ _ _ arguments => isGuard x && arguments.any (·.mentions name)
    | _ => false

/-- Is the name used in a decisive place directly in the statement? -/
def testsHere (s : Stmt) (name : String) : Bool :=
  (decisive? s).any (·.mentions name) || s.expressions.any (guardMentions · name)

/-- Is the name used in a decisive place in the statement or in one below it? -/
def tests (s : Stmt) (name : String) : Bool := s.nested.any (testsHere · name)

/-- Marks the calls at a place as checked. -/
def markAt (pos : Position) (calls : List CallSite) : List CallSite :=
  calls.map fun c => if c.pos = pos then { c with checked := true } else c

/-- What later statements say about the calls of a statement. -/
def settle (s : Stmt) (later : List Stmt) (calls : List CallSite) : List CallSite :=
  match boundStatus? s with
  | some (name, pos) => if later.any (tests · name) then markAt pos calls else calls
  | none => calls

/-! ## Collecting -/

/-- The call site that an expression is itself. -/
def ownCall (e : Expr) (guarded : Bool) : List CallSite :=
  match lowLevel? e with
  | some kind => [⟨kind, e.pos, guarded⟩]
  | none => []

mutual

/-- The calls of an expression; `guarded` says that its value decides something. -/
def exprCalls (guarded : Bool) : Expr → List CallSite
  | .identifier .. | .literal .. => []
  | .member _ object _ => exprCalls guarded object
  | .call p callee options arguments =>
    let e := Expr.call p callee options arguments
    ownCall e guarded ++ exprCalls guarded callee ++ exprsCalls guarded options ++
      exprsCalls (guarded || isGuard e) arguments
  | .index _ base key => exprCalls guarded base ++ exprCalls? guarded key
  | .binary _ left _ right | .assignment _ left _ right => exprCalls guarded left ++ exprCalls guarded right
  | .unary _ _ operand => exprCalls guarded operand
  | .conditional _ test yes no => exprCalls guarded test ++ exprCalls guarded yes ++ exprCalls guarded no
  | .tuple _ items => exprsCalls guarded items
  | .unrecognized _ _ statements expressions => blockCalls statements ++ exprsCalls guarded expressions

def exprsCalls (guarded : Bool) : List Expr → List CallSite
  | [] => []
  | e :: es => exprCalls guarded e ++ exprsCalls guarded es

def exprCalls? (guarded : Bool) : Option Expr → List CallSite
  | none => []
  | some e => exprCalls guarded e

def stmtCalls : Stmt → List CallSite
  | .branch test yes no => exprCalls true test ++ stmtCalls yes ++ stmtCalls? no
  | .whileLoop test body => exprCalls true test ++ stmtCalls body
  | .doLoop body test => exprCalls true test ++ stmtCalls body
  | .forLoop start test update body =>
    stmtCalls? start ++ exprCalls? false test ++ exprCalls? false update ++ stmtCalls body
  | .block _ body | .unchecked _ body => blockCalls body
  | .returns value => exprCalls? true value
  | .unrecognized _ _ statements expressions => blockCalls statements ++ exprsCalls false expressions
  | .expression value => exprCalls false value
  | .declaration _ _ value => exprCalls? false value
  | .emit _ event arguments => exprCalls false event ++ exprsCalls false arguments
  | .revert error arguments => exprCalls? false error ++ exprsCalls false arguments

def stmtCalls? : Option Stmt → List CallSite
  | none => []
  | some s => stmtCalls s

/-- The calls of a statement list, each statement settled by the ones behind it. -/
def blockCalls : List Stmt → List CallSite
  | [] => []
  | s :: later => settle s later (stmtCalls s) ++ blockCalls later

end

end ContractAudit.Facts
