import ContractAudit.Proofs.Tree.Nodes

/-!
# Trees without comments

`Node.withoutComments` takes the comments out of a tree and leaves every other node as it is: its kind, flags, span and
roles. As long as no error stands in a comment, the first error of a tree is that of the tree without comments.
-/

namespace ContractAudit.Tree

mutual

/-- The tree without its comments and what is below them. The root stays. -/
def Node.withoutComments : Node → Node
  | .mk head children => .mk head (withoutCommentsIn children)

def withoutCommentsIn : List Node → List Node
  | [] => []
  | n :: ns => if n.head.isComment then withoutCommentsIn ns else n.withoutComments :: withoutCommentsIn ns

end

namespace Node

@[simp] theorem head_withoutComments (n : Node) : n.withoutComments.head = n.head := by
  cases n
  rfl

/-- No role refers to a comment. -/
def CommentsHaveNoRole (root : Node) : Prop := ∀ n ∈ root.nodes, n.head.isComment = true → n.head.roles = []

/-- No comment is an error or a missing token. -/
def CommentsAreSound (root : Node) : Prop :=
  ∀ n ∈ root.nodes, n.head.isComment = true → n.head.error = false ∧ n.head.missing = false

/-- Nothing below a comment is an error or a missing token. A comment that is a token has nothing below it. -/
def CommentsHideNoError (root : Node) : Prop :=
  ∀ n ∈ root.nodes, n.head.isComment = true → ∀ m ∈ nodesIn n.children, m.head.error = false ∧ m.head.missing = false

instance (root : Node) : Decidable root.CommentsHaveNoRole :=
  inferInstanceAs (Decidable (∀ n ∈ root.nodes, n.head.isComment = true → n.head.roles = []))

instance (root : Node) : Decidable root.CommentsAreSound :=
  inferInstanceAs (Decidable (∀ n ∈ root.nodes, n.head.isComment = true → n.head.error = false ∧ n.head.missing = false))

instance (root : Node) : Decidable root.CommentsHideNoError :=
  inferInstanceAs (Decidable (∀ n ∈ root.nodes, n.head.isComment = true →
    ∀ m ∈ nodesIn n.children, m.head.error = false ∧ m.head.missing = false))

end Node

/-! ## The first error -/

mutual

theorem Node.firstError?_eq_none : (n : Node) → (∀ m ∈ n.nodes, m.head.error = false ∧ m.head.missing = false) →
    n.firstError? = none
  | .mk head children, h => by
    have hhead := h _ (Node.mem_nodes_self _)
    have hbelow := firstErrorIn?_eq_none children fun m hm => h m (Node.mem_nodes_of_mem_nodesIn hm)
    simp only [Node.head] at hhead
    simp [Node.firstError?, hhead.1, hhead.2, hbelow]

theorem firstErrorIn?_eq_none : (ns : List Node) → (∀ m ∈ nodesIn ns, m.head.error = false ∧ m.head.missing = false) →
    firstErrorIn? ns = none
  | [], _ => rfl
  | n :: ns, h => by
    have hfirst := n.firstError?_eq_none fun m hm => h m (List.mem_append_left _ hm)
    have hrest := firstErrorIn?_eq_none ns fun m hm => h m (List.mem_append_right _ hm)
    rw [firstErrorIn?, hfirst, hrest]
    rfl

end

theorem Node.firstError?_comment {root n : Node} (hsound : root.CommentsAreSound) (hhides : root.CommentsHideNoError)
    (hn : n ∈ root.nodes) (hcomment : n.head.isComment = true) : n.firstError? = none := by
  have hself := hsound n hn hcomment
  have hbelow := hhides n hn hcomment
  refine n.firstError?_eq_none fun m hm => ?_
  cases n with
  | mk head children =>
    rcases List.mem_cons.mp hm with rfl | hm
    · exact hself
    · exact hbelow m hm

mutual

theorem Node.firstError?_withoutComments : (n : Node) →
    (∀ m ∈ n.nodes, m.head.isComment = true → m.firstError? = none) → n.withoutComments.firstError? = n.firstError?
  | .mk head children, h => by
    have hbelow := firstErrorIn?_withoutCommentsIn children fun m hm => h m (Node.mem_nodes_of_mem_nodesIn hm)
    simp only [Node.withoutComments, Node.firstError?, hbelow]

theorem firstErrorIn?_withoutCommentsIn : (ns : List Node) →
    (∀ m ∈ nodesIn ns, m.head.isComment = true → m.firstError? = none) →
      firstErrorIn? (withoutCommentsIn ns) = firstErrorIn? ns
  | [], _ => rfl
  | n :: ns, h => by
    have hfirst := n.firstError?_withoutComments fun m hm => h m (List.mem_append_left _ hm)
    have hrest := firstErrorIn?_withoutCommentsIn ns fun m hm => h m (List.mem_append_right _ hm)
    by_cases hcomment : n.head.isComment = true
    · have hnone := h n (List.mem_append_left _ n.mem_nodes_self) hcomment
      rw [withoutCommentsIn, if_pos hcomment, hrest, firstErrorIn?, hnone]
      rfl
    · rw [withoutCommentsIn, if_neg hcomment, firstErrorIn?, firstErrorIn?, hfirst, hrest]

end

end ContractAudit.Tree
