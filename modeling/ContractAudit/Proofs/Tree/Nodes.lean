import ContractAudit.Tree.Node

/-!
# The nodes of a tree and its first error

The nodes come in reading order. An error is looked for in this order, but a subtree without an error flag is passed
over. Where the flags are exact (`FlagsExact`) this search finds what a search through all nodes finds
(`Node.firstError?_eq_firstFault?`): a subtree that is passed over has nothing to find, and below a node with the flag
there is something.
-/

namespace ContractAudit.Tree

/-- A node without errors; `named` tells a rule of the grammar from a token. -/
def cleanNode (kind : String) (named : Bool) (start stop : Nat) (roles : List String) (children : List Node) : Node :=
  .mk ⟨kind, named, false, false, false, start, stop, roles⟩ children

mutual

/-- All nodes of a tree in reading order, the root first. -/
def Node.nodes : Node → List Node
  | .mk head children => .mk head children :: nodesIn children

def nodesIn : List Node → List Node
  | [] => []
  | n :: ns => n.nodes ++ nodesIn ns

end

namespace Node

theorem mem_nodes_self (n : Node) : n ∈ n.nodes := by
  cases n
  exact List.mem_cons_self

theorem mem_nodes_of_mem_nodesIn {n m : Node} (h : m ∈ nodesIn n.children) : m ∈ n.nodes := by
  cases n
  exact List.mem_cons_of_mem _ h

theorem mem_nodesIn {ns : List Node} {c m : Node} (hc : c ∈ ns) (hm : m ∈ c.nodes) : m ∈ nodesIn ns := by
  induction ns with
  | nil => cases hc
  | cons n ns ih =>
    rcases List.mem_cons.mp hc with rfl | hc
    · exact List.mem_append_left _ hm
    · exact List.mem_append_right _ (ih hc)

theorem mem_nodes_of_mem_children {n c m : Node} (hc : c ∈ n.children) (hm : m ∈ c.nodes) : m ∈ n.nodes :=
  mem_nodes_of_mem_nodesIn (mem_nodesIn hc hm)

end Node

/-! ## The first error -/

/-- The node is an error or a missing token. -/
def Head.isFault (h : Head) : Bool := h.error || h.missing

/-- The error flag of a node is set exactly if the node or one below it is a fault. -/
def Node.FlagExact (n : Node) : Prop := n.head.hasError = true ↔ ∃ m ∈ n.nodes, m.head.isFault = true

/-- All error flags of a tree are exact. -/
def Node.FlagsExact (root : Node) : Prop := ∀ n ∈ root.nodes, n.FlagExact

instance (n : Node) : Decidable n.FlagExact :=
  inferInstanceAs (Decidable (n.head.hasError = true ↔ ∃ m ∈ n.nodes, m.head.isFault = true))

instance (root : Node) : Decidable root.FlagsExact := inferInstanceAs (Decidable (∀ n ∈ root.nodes, n.FlagExact))

/-- The first fault in reading order, whatever the flags say. -/
def Node.firstFault? (root : Node) : Option Node := root.nodes.find? (·.head.isFault)

theorem Node.firstError?_mk (head : Head) (children : List Node) : (Node.mk head children).firstError? =
    if head.isFault then some head else if head.hasError then firstErrorIn? children else none :=
  rfl

theorem Node.firstFault?_eq_none {n : Node} (h : n.FlagExact) (hflag : n.head.hasError = false) :
    n.firstFault? = none := by
  rw [firstFault?, List.find?_eq_none]
  intro m hm hfault
  rw [h.mpr ⟨m, hm, hfault⟩] at hflag
  cases hflag

mutual

theorem Node.firstError?_eq_firstFault? : (n : Node) → (∀ m ∈ n.nodes, m.FlagExact) →
    n.firstError? = n.firstFault?.map Node.head
  | .mk head children, h => by
    have hbelow := firstErrorIn?_eq_find? children fun m hm => h m (Node.mem_nodes_of_mem_nodesIn hm)
    by_cases hfault : head.isFault = true
    · -- the node itself is the first fault
      have hfirst : (Node.mk head children).firstFault? = some (.mk head children) := List.find?_cons_of_pos hfault
      rw [hfirst, Node.firstError?_mk, if_pos hfault]
      rfl
    · have hrest : (Node.mk head children).firstFault? = (nodesIn children).find? (·.head.isFault) :=
        List.find?_cons_of_neg hfault
      rw [Node.firstError?_mk, if_neg hfault]
      by_cases hflag : head.hasError = true
      · rw [if_pos hflag, hbelow, hrest]
      · -- the search stops here, and there is nothing below
        rw [if_neg hflag, Node.firstFault?_eq_none (h _ (Node.mem_nodes_self _)) (eq_false_of_ne_true hflag)]
        rfl

theorem firstErrorIn?_eq_find? : (ns : List Node) → (∀ m ∈ nodesIn ns, m.FlagExact) →
    firstErrorIn? ns = ((nodesIn ns).find? (·.head.isFault)).map Node.head
  | [], _ => rfl
  | n :: ns, h => by
    have hfirst : n.firstError? = (n.nodes.find? (·.head.isFault)).map Node.head :=
      n.firstError?_eq_firstFault? fun m hm => h m (List.mem_append_left _ hm)
    have hrest := firstErrorIn?_eq_find? ns fun m hm => h m (List.mem_append_right _ hm)
    rw [firstErrorIn?, hfirst, hrest, nodesIn, List.find?_append, Option.map_or]

end

theorem Node.exists_firstFault {root : Node} (h : root.FlagsExact) (hflag : root.head.hasError = true) :
    ∃ fault, root.firstFault? = some fault := by
  obtain ⟨m, hm, hfault⟩ := (h root root.mem_nodes_self).mp hflag
  exact Option.isSome_iff_exists.mp (List.find?_isSome.mpr ⟨m, hm, hfault⟩)

end ContractAudit.Tree
