/-!
# YAML documents

The nodes of a document. Aliases stand for a node that carries their anchor; `Node.resolve?` puts that node in their
place.
-/

namespace ContractAudit.Yaml

/-- How the text of a scalar is written. -/
inductive Style where
  | plain
  | quoted
  | literal
  | folded
deriving DecidableEq, Repr

/-- What stands in front of a node. -/
structure Properties where
  anchor : Option String := none
  tag : Option String := none
deriving DecidableEq, Repr

inductive Node where
  /-- Nothing is written where a node is expected. -/
  | missing
  | scalar (properties : Properties) (style : Style) (text : String)
  | sequence (properties : Properties) (items : List Node)
  | mapping (properties : Properties) (entries : List (Node × Node))
  | reference (anchor : String)
deriving Repr

namespace Properties

def isEmpty (p : Properties) : Bool := p.anchor.isNone && p.tag.isNone

/-- All properties of both; none may be given twice. -/
def union? (p q : Properties) : Option Properties :=
  if p.anchor.isSome && q.anchor.isSome || p.tag.isSome && q.tag.isSome then none
  else some ⟨p.anchor <|> q.anchor, p.tag <|> q.tag⟩

end Properties

namespace Node

/-- Puts properties in front of a node. An alias takes none; with them, a node of which nothing is written is an empty
text. -/
def attach? (p : Properties) (node : Node) : Option Node :=
  if p.isEmpty then some node
  else match node with
    | missing => some (scalar p .plain "")
    | scalar q style text => (p.union? q).map (scalar · style text)
    | sequence q items => (p.union? q).map (sequence · items)
    | mapping q entries => (p.union? q).map (mapping · entries)
    | reference _ => none

def anchor? : Node → Option String
  | scalar p _ _ | sequence p _ | mapping p _ => p.anchor
  | _ => none

/-! ## Aliases -/

/-- The nodes with an anchor so far, the latest first. -/
abbrev Anchors := List (String × Node)

/-- Adds a node under its anchor, if it has one. -/
def remember (node : Node) (anchors : Anchors) : Anchors :=
  match node.anchor? with
  | some name => (name, node) :: anchors
  | none => anchors

mutual

/-- The node without aliases, and the anchors behind it; `none` if an alias has no anchor before it. -/
def resolve? (anchors : Anchors) : Node → Option (Node × Anchors)
  | reference name => (anchors.lookup name).map (·, anchors)
  | sequence p items => (resolveItems? anchors items).map fun (items, anchors) =>
    (sequence p items, remember (sequence p items) anchors)
  | mapping p entries => (resolveEntries? anchors entries).map fun (entries, anchors) =>
    (mapping p entries, remember (mapping p entries) anchors)
  | node => some (node, remember node anchors)

def resolveItems? (anchors : Anchors) : List Node → Option (List Node × Anchors)
  | [] => some ([], anchors)
  | node :: rest => do
    let (node, anchors) ← resolve? anchors node
    let (rest, anchors) ← resolveItems? anchors rest
    return (node :: rest, anchors)

def resolveEntries? (anchors : Anchors) : List (Node × Node) → Option (List (Node × Node) × Anchors)
  | [] => some ([], anchors)
  | (key, value) :: rest => do
    let (key, anchors) ← resolve? anchors key
    let (value, anchors) ← resolve? anchors value
    let (rest, anchors) ← resolveEntries? anchors rest
    return ((key, value) :: rest, anchors)

end

end Node

end ContractAudit.Yaml
