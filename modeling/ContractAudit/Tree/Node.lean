import ContractAudit.Text.Lines

/-!
# Concrete syntax trees

The tree that a grammar yields for a source: every node has a kind, a byte span and error flags. A child also knows
the roles in which its parent refers to it; a role has at most one child.
-/

namespace ContractAudit.Tree

open Text (Position)

/-- What a node is, its children apart. -/
structure Head where
  kind : String
  /-- A rule of the grammar, as opposed to a token. -/
  named : Bool
  /-- Text that fits no rule. -/
  error : Bool
  /-- A token that was put in to go on. -/
  missing : Bool
  /-- It is or contains an error or a missing token. -/
  hasError : Bool
  start : Nat
  stop : Nat
  /-- The roles that it has for its parent. -/
  roles : List String
deriving DecidableEq, Repr, Inhabited

inductive Node where
  | mk (head : Head) (children : List Node)
deriving Repr, Inhabited

namespace Node

def head : Node → Head
  | mk head _ => head

def children : Node → List Node
  | mk _ children => children

def kind (n : Node) : String := n.head.kind

end Node

/-- Comments may stand anywhere and mean nothing. -/
def Head.isComment (h : Head) : Bool := h.kind == "comment"

/-- A child that carries meaning: a rule of the grammar that is no comment. -/
def Head.isPart (h : Head) : Bool := h.named && !h.isComment

/-- The text of a node, empty if its span is no slice of the source. -/
def Head.text (h : Head) (source : List Char) : List Char := Text.slice source h.start h.stop

def Head.pos (h : Head) (source : List Char) : Position := Text.positionAt source h.start

/-! ## The first error -/

mutual

/-- The first error or missing token in reading order; a subtree that is free of them is passed over. -/
def Node.firstError? : Node → Option Head
  | .mk head children =>
    if head.error || head.missing then some head
    else if head.hasError then firstErrorIn? children
    else none

def firstErrorIn? : List Node → Option Head
  | [] => none
  | n :: ns => n.firstError?.or (firstErrorIn? ns)

end

/-! ## Reading a tree off a list -/

/-- The same node in other roles. -/
def Node.inRoles (n : Node) (roles : List String) : Node := .mk { n.head with roles } n.children

/-- A node of a tree written in reading order: its head, the number of its children, and for each role the index of
the child that has it. -/
structure Entry where
  head : Head
  arity : Nat
  roles : List (String × Nat)
deriving Repr

/-- The roles of the child at an index. -/
def Entry.rolesOf (e : Entry) (i : Nat) : List String := (e.roles.filter fun r => r.2 == i).map Prod.fst

/-- The trees that the entries stand for: from the last entry to the first, each takes its children from the front of
the finished trees. -/
def Node.forest : List Entry → List Node
  | [] => []
  | e :: es =>
    let done := Node.forest es
    .mk e.head ((done.take e.arity).mapIdx fun i c => c.inRoles (e.rolesOf i)) :: done.drop e.arity

/-- The tree whose nodes are given in reading order; `none` if there is not exactly one. -/
def Node.ofEntries? (entries : List Entry) : Option Node :=
  match Node.forest entries with
  | [root] => some root
  | _ => none

end ContractAudit.Tree
