import ContractAudit.Proofs.Tree.Nodes
import ContractAudit.Solidity.Declaration

/-!
# Sites of nodes

A node of a tree is read at a site, which looks at nothing but the children of the node. What it sees there (its kind and
place, its children, its parts, its tokens and the name that it declares) is said here of the node itself.
-/

namespace ContractAudit.Solidity

open ContractAudit.Tree (Node)

theorem Reading.head_ofNode (source : List Char) (n : Node) : (Reading.ofNode source n).head = n.head := by
  cases n
  rfl

namespace Site

variable {s : Site} {r : Reading}

theorem mem_children_of_mem_parts (hr : r ∈ s.parts) : r ∈ s.children := (List.mem_filter.mp hr).1

theorem mem_children_of_mem_partsOfKind {kind : String} (hr : r ∈ s.partsOfKind kind) : r ∈ s.children :=
  mem_children_of_mem_parts (List.mem_filter.mp hr).1

theorem mem_children_of_role? {role : String} (hr : s.role? role = some r) : r ∈ s.children :=
  List.mem_of_find?_eq_some hr

end Site

/-- The site at which a node of a tree is read. -/
def siteOf (source : List Char) (n : Node) : Site := (Reading.ofNode source n).site source

theorem expr_ofNode (source : List Char) (n : Node) : (Reading.ofNode source n).expr = (siteOf source n).expr := by
  cases n
  rfl

theorem kind_siteOf (source : List Char) (n : Node) : (siteOf source n).kind = n.kind := by
  cases n
  rfl

theorem pos_siteOf (source : List Char) (n : Node) : (siteOf source n).pos = n.head.pos source := by
  cases n
  rfl

theorem ofNodes_eq (source : List Char) (ns : List Node) :
    Reading.ofNodes source ns = ns.map (Reading.ofNode source) := by
  induction ns with
  | nil => rfl
  | cons n ns ih => rw [Reading.ofNodes, ih, List.map_cons]

theorem children_siteOf (source : List Char) (n : Node) :
    (siteOf source n).children = n.children.map (Reading.ofNode source) := by
  cases n
  exact ofNodes_eq source _

theorem parts_siteOf (source : List Char) (n : Node) :
    (siteOf source n).parts = (n.children.filter (·.head.isPart)).map (Reading.ofNode source) := by
  unfold Site.parts
  rw [children_siteOf, List.filter_map]
  simp only [Function.comp_def, Reading.head_ofNode]

theorem exists_of_mem_children {source : List Char} {n : Node} {r : Reading} (hr : r ∈ (siteOf source n).children) :
    ∃ c ∈ n.children, Reading.ofNode source c = r := by
  rw [children_siteOf] at hr
  exact List.mem_map.mp hr

theorem hasToken_siteOf (source : List Char) (n : Node) (kind : String) :
    (siteOf source n).hasToken kind = n.children.any (·.kind == kind) := by
  unfold Site.hasToken
  rw [children_siteOf, List.any_map]
  simp only [Function.comp_def, Reading.kind, Reading.head_ofNode]
  rfl

/-! ## Declarations -/

/-- The node declares a contract, an interface or a library. -/
def DeclaresContract (n : Node) : Prop :=
  n.kind ∈ ["contract_declaration", "interface_declaration", "library_declaration"]

/-- The name that a declaration node gives: the trimmed text of the child in that role, unless it is empty. -/
def declaredName? (source : List Char) (n : Node) : Option String :=
  ((n.children.find? (·.head.roles.contains "name")).map fun c =>
    Text.trim (String.ofList (c.head.text source))).filter fun name => !name.isEmpty

theorem roleText?_siteOf (source : List Char) (n : Node) :
    (siteOf source n).roleText? "name" = declaredName? source n := by
  unfold Site.roleText? Site.role? declaredName?
  rw [children_siteOf, List.find?_map, Option.map_map]
  simp only [Function.comp_def, Site.trimmedTextOf, Site.textOf, Reading.head_ofNode]
  rfl

end ContractAudit.Solidity
