import ContractAudit.Proofs.Solidity.Sites

/-!
# Which sources are refused, and at which line

A source is refused if its tree has errors and nothing at its top level is a declaration (`ofTree_eq_error_iff`). The
line that is reported comes from a search that passes over every subtree without an error flag; where the flags are exact
it is the line of the first error in reading order (`refusal_exact`).
-/

namespace ContractAudit.Solidity

open ContractAudit.Tree (Node cleanNode)

/-! ## What is recognized at the top level -/

/-- The node is a pragma or declares a contract, an interface or a library. -/
def OpensItem (n : Node) : Prop := n.kind = "pragma_directive" ∨ DeclaresContract n

theorem OpensItem.not_isComment {n : Node} (h : OpensItem n) : n.head.isComment = false := by
  have hkind : n.kind ≠ "comment" := by
    intro hcomment
    unfold OpensItem DeclaresContract at h
    rw [hcomment] at h
    revert h
    decide
  exact beq_eq_false_iff_ne.mpr hkind

theorem isRecognized_item (source : List Char) (n : Node) :
    (siteOf source n).item.isRecognized = true ↔ OpensItem n := by
  unfold Site.item OpensItem DeclaresContract
  rw [kind_siteOf]
  split
  case h_1 h | h_2 h | h_3 h | h_4 h => simp [h, Item.isRecognized]
  case h_5 => simp_all [Item.isRecognized]

theorem any_isRecognized (source : List Char) (root : Node) :
    (SourceUnit.ofReading source (Reading.ofNode source root)).items.any (·.isRecognized) = true ↔
      ∃ c ∈ root.children, c.head.named = true ∧ OpensItem c := by
  have hitems : (SourceUnit.ofReading source (Reading.ofNode source root)).items =
      (root.children.filter (·.head.isPart)).map fun c => (siteOf source c).item := by
    have hparts := congrArg (List.map fun r : Reading => (r.site source).item) (parts_siteOf source root)
    rwa [List.map_map] at hparts
  rw [hitems, List.any_map, List.any_eq_true]
  constructor
  · rintro ⟨c, hc, hrecognized⟩
    obtain ⟨hchild, hpart⟩ := List.mem_filter.mp hc
    exact ⟨c, hchild, (Bool.and_eq_true_iff.mp hpart).1, (isRecognized_item source c).mp hrecognized⟩
  · rintro ⟨c, hc, hnamed, hopens⟩
    refine ⟨c, List.mem_filter.mpr ⟨hc, ?_⟩, (isRecognized_item source c).mpr hopens⟩
    rw [Tree.Head.isPart, hnamed, hopens.not_isComment]
    rfl

/-! ## Refused sources -/

theorem ofTree_eq_error_iff {source : List Char} {root : Node} {e : SyntaxError} :
    SourceUnit.ofTree source root = .error e ↔
      (root.head.hasError = true ∧ ¬ ∃ c ∈ root.children, c.head.named = true ∧ OpensItem c) ∧
        e = ⟨(root.firstError?.map fun h => (h.pos source).line).getD 1⟩ := by
  rw [← any_isRecognized source, SourceUnit.ofTree]
  cases root.head.hasError <;>
    cases (SourceUnit.ofReading source (Reading.ofNode source root)).items.any (·.isRecognized) <;>
    simp [eq_comm]

/-- **A source is refused exactly if its tree has errors and nothing at the top level was recognized.** If the error
flags are exact, passing over the subtrees without the flag loses nothing, and the line of a refusal is that of the
first error or missing token in reading order: there always is one. -/
theorem refusal_exact (source : List Char) (root : Node) :
    ((∃ e, SourceUnit.ofTree source root = .error e) ↔
      root.head.hasError = true ∧ ∀ c ∈ root.children, c.head.named = true → ¬ OpensItem c) ∧
    (root.FlagsExact →
      root.firstError? = root.firstFault?.map Node.head ∧
      ∀ e, SourceUnit.ofTree source root = .error e → ∃ front fault back, root.nodes = front ++ fault :: back ∧
        fault.head.isFault = true ∧ (∀ n ∈ front, n.head.isFault = false) ∧ root.firstError? = some fault.head ∧
        e = ⟨(fault.head.pos source).line⟩) := by
  constructor
  · constructor
    · rintro ⟨e, he⟩
      obtain ⟨⟨hflag, hnone⟩, -⟩ := ofTree_eq_error_iff.mp he
      exact ⟨hflag, fun c hc hnamed hopens => hnone ⟨c, hc, hnamed, hopens⟩⟩
    · rintro ⟨hflag, hnone⟩
      refine ⟨_, ofTree_eq_error_iff.mpr ⟨⟨hflag, ?_⟩, rfl⟩⟩
      rintro ⟨c, hc, hnamed, hopens⟩
      exact hnone c hc hnamed hopens
  · intro hexact
    have hsearch : root.firstError? = root.firstFault?.map Node.head := root.firstError?_eq_firstFault? hexact
    refine ⟨hsearch, ?_⟩
    intro e he
    obtain ⟨⟨hflag, -⟩, rfl⟩ := ofTree_eq_error_iff.mp he
    obtain ⟨fault, hfound⟩ := Node.exists_firstFault hexact hflag
    obtain ⟨hfault, front, back, hnodes, hfront⟩ := List.find?_eq_some_iff_append.mp hfound
    rw [hfound] at hsearch
    refine ⟨front, fault, back, hnodes, hfault, ?_, hsearch, ?_⟩
    · intro n hn
      simpa using hfront n hn
    · rw [hsearch]
      rfl

/-! ## A stray name in an enumeration -/

def enumSource : String := "enum E \x7b A,\n B\n\n C \x7d\n"

/-- The node with its error flag set. -/
def flagged (n : Node) : Node := .mk { n.head with hasError := true } n.children

/-- The name without a comma in front of it, on the fourth line. -/
def strayName : Node :=
  .mk ⟨"ERROR", true, true, false, true, 17, 18, []⟩ [cleanNode "identifier" true 17 18 [] []]

def enumTree : Node :=
  flagged <| cleanNode "source_file" true 0 21 [] [flagged <| cleanNode "enum_declaration" true 0 20 [] [
    cleanNode "enum" false 0 4 [] [],
    cleanNode "identifier" true 5 6 ["name"] [],
    flagged <| cleanNode "enum_body" true 7 20 ["body"] [
      cleanNode "\x7b" false 7 8 [] [],
      cleanNode "enum_value" true 9 10 [] [],
      cleanNode "," false 10 11 [] [],
      cleanNode "enum_value" true 13 14 [] [],
      strayName,
      cleanNode "\x7d" false 19 20 [] []]]]

/-- The first fault stands two levels below the root, behind nodes that the search passes over. -/
theorem refusal_exact_enum :
    enumTree.FlagsExact ∧ (∀ c ∈ enumTree.children, c.head.named = true → ¬ OpensItem c) ∧
      SourceUnit.ofTree enumSource.toList enumTree = .error ⟨4⟩ := by
  have hflags : enumTree.FlagsExact := by decide
  have hnone : ∀ c ∈ enumTree.children, c.head.named = true → ¬ OpensItem c := by
    unfold OpensItem DeclaresContract
    decide
  obtain ⟨hrefused, hline⟩ := refusal_exact enumSource.toList enumTree
  obtain ⟨e, he⟩ := hrefused.mpr ⟨rfl, hnone⟩
  obtain ⟨front, fault, back, -, -, -, hfound, rfl⟩ := (hline hflags).2 e he
  have hstray : enumTree.firstError? = some strayName.head := rfl
  have hhead : fault.head = strayName.head := Option.some.inj (hfound.symm.trans hstray)
  rw [hhead] at he
  exact ⟨hflags, hnone, he⟩

end ContractAudit.Solidity
