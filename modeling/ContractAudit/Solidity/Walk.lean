import ContractAudit.Solidity.Syntax

/-!
# Traversals

What stands directly below an expression or a statement, and the traversal that lists every expression of a tree, a
parent in front of its children.
-/

namespace ContractAudit.Solidity

open Text (Position)

namespace Expr

def pos : Expr → Position
  | identifier p .. | literal p .. | member p .. | call p .. | index p .. | binary p .. | assignment p ..
  | unary p .. | conditional p .. | tuple p .. | unrecognized p .. => p

def identifier? : Expr → Option String
  | identifier _ name => some name
  | _ => none

/-- The member name of a call `x.member(..)`. -/
def calledMember? : Expr → Option String
  | call _ (member _ _ name) .. => some name
  | _ => none

/-- The name of a call `name(..)`. -/
def calledName? : Expr → Option String
  | call _ callee .. => callee.identifier?
  | _ => none

/-- The expressions directly below, in source order. -/
def children : Expr → List Expr
  | identifier .. | literal .. => []
  | member _ object _ => [object]
  | call _ callee options arguments => callee :: options ++ arguments
  | index _ base key => base :: key.toList
  | binary _ left _ right | assignment _ left _ right => [left, right]
  | unary _ _ operand => [operand]
  | conditional _ test yes no => [test, yes, no]
  | tuple _ items => items
  | unrecognized _ _ _ expressions => expressions

end Expr

namespace Stmt

/-- The expressions directly below, in source order. -/
def expressions : Stmt → List Expr
  | expression value => [value]
  | declaration _ _ value => value.toList
  | branch test .. | whileLoop test _ | doLoop _ test => [test]
  | forLoop _ test update _ => test.toList ++ update.toList
  | returns value => value.toList
  | emit _ event arguments => event :: arguments
  | revert error arguments => error.toList ++ arguments
  | unrecognized _ _ _ expressions => expressions
  | block .. | unchecked .. => []

/-- The statements directly below, in source order. -/
def statements : Stmt → List Stmt
  | block _ body | unchecked _ body => body
  | branch _ yes no => yes :: no.toList
  | forLoop start _ _ body => start.toList ++ [body]
  | whileLoop _ body | doLoop body _ => [body]
  | unrecognized _ _ statements _ => statements
  | expression .. | declaration .. | returns .. | emit .. | revert .. => []

end Stmt

/-! ## All expressions -/

mutual

/-- The expression and all expressions below it; statements kept by an unrecognized expression come first. -/
def Expr.walk : Expr → List Expr
  | .identifier p name => [.identifier p name]
  | .literal p text => [.literal p text]
  | .member p object name => .member p object name :: object.walk
  | .call p callee options arguments =>
    .call p callee options arguments :: (callee.walk ++ walkExprs options ++ walkExprs arguments)
  | .index p base key => .index p base key :: (base.walk ++ walkExpr? key)
  | .binary p left operator right => .binary p left operator right :: (left.walk ++ right.walk)
  | .assignment p left operator right => .assignment p left operator right :: (left.walk ++ right.walk)
  | .unary p operator operand => .unary p operator operand :: operand.walk
  | .conditional p test yes no => .conditional p test yes no :: (test.walk ++ yes.walk ++ no.walk)
  | .tuple p items => .tuple p items :: walkExprs items
  | .unrecognized p kind statements expressions =>
    .unrecognized p kind statements expressions :: (walkStmts statements ++ walkExprs expressions)

/-- All expressions of a statement. The parts of a loop header are visited in the order in which they are written. -/
def Stmt.walk : Stmt → List Expr
  | .block _ body | .unchecked _ body => walkStmts body
  | .expression value => value.walk
  | .declaration _ _ value => walkExpr? value
  | .branch test yes no => test.walk ++ yes.walk ++ walkStmt? no
  | .forLoop start test update body => walkStmt? start ++ walkExpr? test ++ walkExpr? update ++ body.walk
  | .whileLoop test body => test.walk ++ body.walk
  | .doLoop body test => test.walk ++ body.walk
  | .returns value => walkExpr? value
  | .emit _ event arguments => event.walk ++ walkExprs arguments
  | .revert error arguments => walkExpr? error ++ walkExprs arguments
  | .unrecognized _ _ statements expressions => walkExprs expressions ++ walkStmts statements

def walkExprs : List Expr → List Expr
  | [] => []
  | e :: es => e.walk ++ walkExprs es

def walkStmts : List Stmt → List Expr
  | [] => []
  | s :: ss => s.walk ++ walkStmts ss

def walkExpr? : Option Expr → List Expr
  | none => []
  | some e => e.walk

def walkStmt? : Option Stmt → List Expr
  | none => []
  | some s => s.walk

end

/-- All expressions of a block. -/
def Block.walk (block : Block) : List Expr := walkStmts block.statements

/-- Does an identifier of that name occur in the expression? -/
def Expr.mentions (e : Expr) (name : String) : Bool := e.walk.any fun x => x.identifier? == some name

/-! ## All statements -/

mutual

/-- The statement and all statements below it, not through expressions. -/
def Stmt.nested : Stmt → List Stmt
  | .block p body => .block p body :: nestedAll body
  | .unchecked p body => .unchecked p body :: nestedAll body
  | .branch test yes no => .branch test yes no :: (yes.nested ++ nested? no)
  | .forLoop start test update body => .forLoop start test update body :: (nested? start ++ body.nested)
  | .whileLoop test body => .whileLoop test body :: body.nested
  | .doLoop body test => .doLoop body test :: body.nested
  | .unrecognized p kind statements expressions =>
    .unrecognized p kind statements expressions :: nestedAll statements
  | .expression value => [.expression value]
  | .declaration p slots value => [.declaration p slots value]
  | .returns value => [.returns value]
  | .emit p event arguments => [.emit p event arguments]
  | .revert error arguments => [.revert error arguments]

def nestedAll : List Stmt → List Stmt
  | [] => []
  | s :: ss => s.nested ++ nestedAll ss

def nested? : Option Stmt → List Stmt
  | none => []
  | some s => s.nested

end

end ContractAudit.Solidity
