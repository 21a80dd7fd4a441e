import ContractAudit.Proofs.Facts.Contract
import ContractAudit.Proofs.Solidity.Throughout

/-!
# Where recorded calls come from

Every call in the facts of a contract goes back to a call node of the tree: the node stands in a function that stands in
a contract, and the record has the place of the node and the names of the two (`ComesFrom`). Conversions are read as
calls by name, so none of them is ever recorded; what is recorded below one stands in what it converts.
-/

namespace ContractAudit.Facts

open Solidity
open ContractAudit.Tree (Node cleanNode)

/-! ## Kinds of nodes -/

/-- The name under which the function of a node is known. Only function definitions give one themselves. -/
def knownName? (source : List Char) (n : Node) : Option String :=
  if n.kind = "function_definition" then declaredName? source n
  else if n.kind = "constructor_definition" then some "constructor"
  else if n.kind = "fallback_receive_definition" then
    some (if n.children.any (·.kind == "receive") then "<receive>" else "<fallback>")
  else none

/-- The node defines a function, a constructor, or a fallback or receive function. -/
def DefinesFunction (n : Node) : Prop :=
  n.kind ∈ ["function_definition", "constructor_definition", "fallback_receive_definition"]

/-- The node is a conversion such as `uint(x)` or `payable(x)`. -/
def IsConversion (n : Node) : Prop := n.kind ∈ ["type_cast_expression", "payable_conversion_expression"]

instance (n : Node) : Decidable (IsConversion n) :=
  inferInstanceAs (Decidable (n.kind ∈ ["type_cast_expression", "payable_conversion_expression"]))

/-- A recorded call goes back to a call node inside a function node inside a contract node at the top of the tree. -/
structure ComesFrom (source : List Char) (file : String) (root contract function node : Node) (call : ExternalCall) :
    Prop where
  contract_mem : contract ∈ root.children
  contract_kind : DeclaresContract contract
  function_mem : function ∈ contract.nodes
  function_kind : DefinesFunction function
  node_mem : node ∈ function.nodes
  node_kind : node.kind = "call_expression"
  /-- The node itself is read as a call of the recorded member. -/
  called : (Reading.ofNode source node).expr.calledMember? = some call.kind.label
  line : call.location.line = (node.head.pos source).line
  column : call.location.column = (node.head.pos source).column
  inFile : call.location.file = file
  functionName : call.location.function = knownName? source function
  contractName : call.location.contract = declaredName? source contract
  named : (knownName? source function).isSome ∧ (declaredName? source contract).isSome

/-! ## Functions -/

theorem functionKind_siteOf (source : List Char) (n : Node) : (siteOf source n).functionKind =
    if n.kind = "constructor_definition" then .constructor
    else if n.kind = "fallback_receive_definition" then
      if n.children.any (·.kind == "receive") then .receive else .fallback
    else .function := by
  unfold Site.functionKind
  rw [kind_siteOf, hasToken_siteOf]
  split
  · next h => rw [h, if_pos rfl]
  · next h =>
    rw [h]
    rfl
  · next hconstructor hfallback => rw [if_neg hconstructor, if_neg hfallback]

theorem functionName?_siteOf {source : List Char} {n : Node} (h : DefinesFunction n) :
    functionName? (siteOf source n).function = knownName? source n := by
  have hkind : (siteOf source n).function.kind = (siteOf source n).functionKind := rfl
  have hname : (siteOf source n).function.name =
      if (siteOf source n).functionKind = .function then declaredName? source n else none := by
    rw [← roleText?_siteOf]
    rfl
  rw [functionKind_siteOf] at hkind hname
  unfold functionName? knownName?
  rw [hkind, hname]
  simp only [DefinesFunction, List.mem_cons, List.not_mem_nil, or_false] at h
  rcases h with h | h | h
  · rw [h]
    rfl
  · rw [h]
    rfl
  · rw [h]
    cases n.children.any (·.kind == "receive") <;> rfl

theorem pos_expr_of_call {s : Site} (h : s.kind = "call_expression") : s.expr.pos = s.pos := by
  simp only [Site.expr, h]
  split <;> rfl

/-! ## From a body to the tree -/

/-- An expression that is no call of a member, or what a call node below a node is read as. -/
def ReadBelow (source : List Char) (n : Node) (e : Expr) : Prop :=
  e.calledMember? = none ∨ ∃ m ∈ n.nodes, m.kind = "call_expression" ∧ e = (Reading.ofNode source m).expr

theorem readBelow_of_body? {source : List Char} {n : Node} {b : Block} (hb : (siteOf source n).body? = some b) :
    ∀ e ∈ walkStmts b.statements, ReadBelow source n e := by
  -- only calls of members need an origin, and only call nodes are read as such
  have hread : (Reading.ofNode source n).Throughout (ReadBelow source n) := by
    apply Reading.throughout_ofNode
    · intro e he
      exact .inl he
    · intro m hm hkind
      exact .inr ⟨m, hm, hkind, rfl⟩
  intro e he
  rw [walkStmts_eq] at he
  obtain ⟨t, ht, he⟩ := List.mem_flatMap.mp he
  exact Site.throughout_body? hread.children hb t ht e he

theorem exists_of_mem_blockCalls {statements : List Stmt} {c : CallSite} (hc : c ∈ blockCalls statements) :
    ∃ e ∈ walkStmts statements, e.calledMember? = some c.kind.label ∧ e.pos = c.pos := by
  have hmem : (c.kind, c.pos) ∈ (blockCalls statements).map fun c => (c.kind, c.pos) := List.mem_map.mpr ⟨c, hc, rfl⟩
  obtain ⟨e, he, hcall⟩ := List.mem_filterMap.mp ((blockCalls_perm_walk statements).mem_iff.mp hmem)
  rw [memberCall?_eq] at hcall
  obtain ⟨kind, hkind, hpair⟩ := Option.map_eq_some_iff.mp hcall
  obtain ⟨rfl, hpos⟩ := Prod.mk.inj hpair
  exact ⟨e, he, lowLevel?_eq_some.mp hkind, hpos⟩

/-- **A collected call goes back to a call node in the function.** -/
theorem exists_call_node {source : List Char} {n : Node} {f : NamedFunction}
    (hf : f.declaration = (siteOf source n).function) {c : CallSite} (hc : c ∈ blockCalls f.statements) :
    ∃ m ∈ n.nodes, m.kind = "call_expression" ∧
      (Reading.ofNode source m).expr.calledMember? = some c.kind.label ∧ m.head.pos source = c.pos := by
  obtain ⟨e, he, hcall, hpos⟩ := exists_of_mem_blockCalls hc
  have hbody : f.declaration.body = (siteOf source n).body? := by
    rw [hf]
    rfl
  unfold NamedFunction.statements at he
  rw [hbody] at he
  cases hb : (siteOf source n).body? with
  | none =>
    rw [hb] at he
    cases he
  | some b =>
    rw [hb] at he
    rcases readBelow_of_body? hb e he with hnone | ⟨m, hm, hkind, rfl⟩
    · rw [hnone] at hcall
      cases hcall
    · have hplace : (Reading.ofNode source m).expr.pos = m.head.pos source := by
        rw [expr_ofNode, pos_expr_of_call ((kind_siteOf source m).trans hkind), pos_siteOf]
      exact ⟨m, hm, hkind, hcall, hplace.symm.trans hpos⟩

/-! ## From a declaration to the tree -/

theorem member_eq_function {s : Site} {f : FunctionDef} (h : s.member = .function f) :
    s.kind ∈ ["function_definition", "constructor_definition", "fallback_receive_definition"] ∧ f = s.function := by
  unfold Site.member at h
  split at h
  case h_1 hkind | h_2 hkind | h_3 hkind =>
    rw [hkind]
    exact ⟨by decide, (Member.function.inj h).symm⟩
  all_goals cases h

theorem item_eq_contract {s : Site} {c : ContractDef} (h : s.item = .contract c) :
    s.kind ∈ ["contract_declaration", "interface_declaration", "library_declaration"] ∧ c = s.contract := by
  unfold Site.item at h
  split at h
  case h_2 hkind | h_3 hkind | h_4 hkind =>
    rw [hkind]
    exact ⟨by decide, (Item.contract.inj h).symm⟩
  all_goals cases h

theorem exists_member_node {source : List Char} {contract : Node} {m : Member}
    (hm : m ∈ (siteOf source contract).contract.members) :
    ∃ n ∈ contract.nodes, m = (siteOf source n).member := by
  have hmembers : (siteOf source contract).contract.members = (((siteOf source contract).role? "body").map fun r =>
      ((siteOf source contract).below r).parts.map fun m => ((siteOf source contract).below m).member).getD [] := rfl
  rw [hmembers] at hm
  cases hbody : (siteOf source contract).role? "body" with
  | none =>
    rw [hbody] at hm
    cases hm
  | some r =>
    rw [hbody] at hm
    obtain ⟨p, hp, rfl⟩ := List.mem_map.mp hm
    obtain ⟨body, hchild, rfl⟩ := exists_of_mem_children (Site.mem_children_of_role? hbody)
    obtain ⟨n, hn, rfl⟩ := exists_of_mem_children (n := body) (Site.mem_children_of_mem_parts hp)
    exact ⟨n, Node.mem_nodes_of_mem_children hchild (Node.mem_nodes_of_mem_children hn n.mem_nodes_self), rfl⟩

/-- **A named function goes back to a function node in the contract,** which gives it its name. -/
theorem exists_function_node {source : List Char} {contract : Node} {f : NamedFunction}
    (hf : f ∈ namedFunctions (siteOf source contract).contract.members) :
    ∃ n ∈ contract.nodes, DefinesFunction n ∧ f.declaration = (siteOf source n).function ∧
      knownName? source n = some f.name := by
  obtain ⟨m, hm, hnamed⟩ := List.mem_filterMap.mp hf
  obtain ⟨n, hn, hmember⟩ := exists_member_node hm
  cases m with
  | function declaration =>
    obtain ⟨name, hname, rfl⟩ := Option.map_eq_some_iff.mp hnamed
    obtain ⟨hkind, rfl⟩ := member_eq_function hmember.symm
    rw [kind_siteOf] at hkind
    rw [functionName?_siteOf hkind] at hname
    exact ⟨n, hn, hkind, rfl, hname⟩
  | _ => cases hnamed

theorem exists_contract_node {source : List Char} {root : Node} {unit : SourceUnit}
    (hunit : SourceUnit.ofTree source root = .ok unit) {c : ContractDef} (hc : c ∈ unit.contracts) :
    ∃ n ∈ root.children, DeclaresContract n ∧ c = (siteOf source n).contract := by
  have hitems : unit = SourceUnit.ofReading source (Reading.ofNode source root) := by
    simp only [SourceUnit.ofTree] at hunit
    split at hunit
    · cases hunit
    · exact (Except.ok.inj hunit).symm
  rw [hitems] at hc
  obtain ⟨item, hitem, hcontract⟩ := List.mem_filterMap.mp hc
  obtain ⟨r, hr, rfl⟩ := List.mem_map.mp hitem
  obtain ⟨n, hn, rfl⟩ := exists_of_mem_children (n := root) (Site.mem_children_of_mem_parts hr)
  -- the item decides whether it is kept, and then at which nodes it can have been read
  generalize hread : Site.item _ = item at hcontract
  cases item with
  | contract declaration =>
    obtain rfl := Option.some.inj hcontract
    obtain ⟨hkind, hdeclaration⟩ := item_eq_contract (s := siteOf source n) hread
    rw [kind_siteOf] at hkind
    exact ⟨n, hn, hkind, hdeclaration⟩
  | _ => cases hcontract

/-! ## Conversions -/

/-- What a conversion node converts. -/
def converted (n : Node) : List Node := n.children.filter fun c => c.head.isPart && c.kind != "primitive_type"

theorem expr_conversion {source : List Char} {n : Node} (h : IsConversion n) :
    (Reading.ofNode source n).expr = (siteOf source n).conversion := by
  rw [expr_ofNode]
  simp only [IsConversion, List.mem_cons, List.not_mem_nil, or_false, ← kind_siteOf source] at h
  rcases h with h | h <;> simp only [Site.expr, h]

theorem operands_siteOf (source : List Char) (n : Node) :
    ((siteOf source n).parts.filter (·.kind != "primitive_type")).map (·.expr) =
      (converted n).map fun c => (Reading.ofNode source c).expr := by
  unfold Site.parts converted
  rw [children_siteOf, List.filter_filter, List.filter_map, List.map_map]
  have hkept : ∀ c : Node, ((Reading.ofNode source c).kind != "primitive_type" && (Reading.ofNode source c).head.isPart) =
      (c.head.isPart && c.kind != "primitive_type") := by
    intro c
    rw [Bool.and_comm, Reading.kind, Reading.head_ofNode]
    rfl
  simp only [Function.comp_def, hkept]

theorem exprCalls_named (guarded : Bool) (p : Text.Position) (name : String) (arguments : List Expr) :
    exprCalls guarded (.call p (.identifier p name) [] arguments) =
      exprsCalls (guarded || isGuard (.call p (.identifier p name) [] arguments)) arguments := by
  simp only [exprCalls, exprsCalls, List.append_nil]
  rfl

theorem exprCalls_conversion {source : List Char} {n : Node} (h : IsConversion n) (guarded : Bool) :
    exprCalls guarded (Reading.ofNode source n).expr = (converted n).flatMap fun c =>
      exprCalls (guarded || isGuard (Reading.ofNode source n).expr) (Reading.ofNode source c).expr := by
  rw [expr_conversion h]
  unfold Site.conversion
  rw [exprCalls_named, exprsCalls_eq, operands_siteOf, List.flatMap_map]

/-- **No call is invented.** Every call in the facts of a tree goes back to a call node in a function in a contract, with
its place and the two names. A conversion is no low-level call, and its calls are those of what it converts; these are
checked if the conversion is, or if its type is spelled like a guard. -/
theorem calls_come_from_nodes (source : List Char) (root : Node) (file : String) :
    (∀ unit, SourceUnit.ofTree source root = .ok unit → ∀ facts ∈ ofUnit file unit, ∀ call ∈ facts.calls,
      ∃ contract function node, ComesFrom source file root contract function node call) ∧
    ∀ node, IsConversion node → lowLevel? (Reading.ofNode source node).expr = none ∧
      ∀ guarded, exprCalls guarded (Reading.ofNode source node).expr = (converted node).flatMap fun c =>
        exprCalls (guarded || isGuard (Reading.ofNode source node).expr) (Reading.ofNode source c).expr := by
  constructor
  · intro unit hunit facts hfacts call hcall
    -- from the record to its contract, to a function in it, and to a node in that
    obtain ⟨c, hc, hof⟩ := List.mem_filterMap.mp hfacts
    obtain ⟨contract, hcontract, hdeclares, rfl⟩ := exists_contract_node hunit hc
    obtain ⟨hname, -, hcalls⟩ := of_ofContract? hof
    rw [hcalls] at hcall
    obtain ⟨f, hf, hcall⟩ := List.mem_flatMap.mp hcall
    obtain ⟨collected, hcollected, rfl⟩ := List.mem_map.mp hcall
    obtain ⟨function, hfunction, hdefines, hdeclaration, hknown⟩ := exists_function_node hf
    obtain ⟨node, hnode, hkind, hcalled, hpos⟩ := exists_call_node hdeclaration hcollected
    have hdeclared : declaredName? source contract = some facts.name :=
      (roleText?_siteOf source contract).symm.trans hname
    refine ⟨contract, function, node, ?_⟩
    exact {
      contract_mem := hcontract
      contract_kind := hdeclares
      function_mem := hfunction
      function_kind := hdefines
      node_mem := hnode
      node_kind := hkind
      called := hcalled
      line := by rw [hpos]; rfl
      column := by rw [hpos]; rfl
      inFile := rfl
      functionName := hknown.symm
      contractName := hdeclared.symm
      named := by rw [hknown, hdeclared]; exact ⟨rfl, rfl⟩ }
  · intro node hnode
    refine ⟨?_, exprCalls_conversion hnode⟩
    rw [expr_conversion hnode]
    rfl

/-! ## A payment through a converted address -/

/-- The conversion and the call around it start at the same place. -/
def paymentSource : String := "contract A \x7b function f() \x7b payable(x).call\x7bvalue: 1\x7d(\"\"); \x7d \x7d"

def paymentConversion : Node :=
  cleanNode "payable_conversion_expression" true 28 38 [] [
    cleanNode "payable" false 28 35 [] [],
    cleanNode "(" false 35 36 [] [],
    cleanNode "call_argument" true 36 37 [] [cleanNode "expression" true 36 37 [] [
      cleanNode "identifier" true 36 37 [] []]],
    cleanNode ")" false 37 38 [] []]

def paymentCall : Node :=
  cleanNode "call_expression" true 28 57 [] [
    cleanNode "expression" true 28 53 ["function"] [cleanNode "struct_expression" true 28 53 [] [
      cleanNode "expression" true 28 43 ["type"] [cleanNode "member_expression" true 28 43 [] [
        cleanNode "expression" true 28 38 ["object"] [paymentConversion],
        cleanNode "." false 38 39 [] [],
        cleanNode "identifier" true 39 43 ["property"] []]],
      cleanNode "\x7b" false 43 44 [] [],
      cleanNode "struct_field_assignment" true 44 52 [] [
        cleanNode "identifier" true 44 49 ["name"] [],
        cleanNode ":" false 49 50 [] [],
        cleanNode "expression" true 51 52 ["value"] [cleanNode "number_literal" true 51 52 [] []]],
      cleanNode "\x7d" false 52 53 [] []]],
    cleanNode "(" false 53 54 [] [],
    cleanNode "call_argument" true 54 56 [] [cleanNode "expression" true 54 56 [] [
      cleanNode "string_literal" true 54 56 [] []]],
    cleanNode ")" false 56 57 [] []]

def paymentTree : Node :=
  cleanNode "source_file" true 0 62 [] [cleanNode "contract_declaration" true 0 62 [] [
    cleanNode "contract" false 0 8 [] [],
    cleanNode "identifier" true 9 10 ["name"] [],
    cleanNode "contract_body" true 11 62 ["body"] [
      cleanNode "\x7b" false 11 12 [] [],
      cleanNode "function_definition" true 13 60 [] [
        cleanNode "function" false 13 21 [] [],
        cleanNode "identifier" true 22 23 ["name"] [],
        cleanNode "(" false 23 24 [] [],
        cleanNode ")" false 24 25 [] [],
        cleanNode "function_body" true 26 60 ["body"] [
          cleanNode "\x7b" false 26 27 [] [],
          cleanNode "statement" true 28 58 [] [cleanNode "expression_statement" true 28 58 [] [
            cleanNode "expression" true 28 57 [] [paymentCall],
            cleanNode ";" false 57 58 [] []]],
          cleanNode "\x7d" false 59 60 [] []]],
      cleanNode "\x7d" false 61 62 [] []]]]

def paymentUnit : SourceUnit :=
  SourceUnit.ofReading paymentSource.toList (Reading.ofNode paymentSource.toList paymentTree)

/-- One call is recorded, at the place of the call node, and none for the conversion that starts there. -/
def paymentRecord : ExternalCall := ⟨.call, ⟨"A.sol", 1, 28, some "f", some "A"⟩, false⟩

theorem calls_come_from_nodes_payment :
    SourceUnit.ofTree paymentSource.toList paymentTree = .ok paymentUnit ∧
    ∃ facts ∈ ofUnit "A.sol" paymentUnit, facts.calls = [paymentRecord] ∧
      (∃ contract function node,
        ComesFrom paymentSource.toList "A.sol" paymentTree contract function node paymentRecord) ∧
      IsConversion paymentConversion ∧
      exprCalls false (Reading.ofNode paymentSource.toList paymentConversion).expr = [] := by
  obtain ⟨hfound, hconverted⟩ := calls_come_from_nodes paymentSource.toList paymentTree "A.sol"
  have hunit : SourceUnit.ofTree paymentSource.toList paymentTree = .ok paymentUnit := rfl
  have hrecords : (ofUnit "A.sol" paymentUnit).map ContractFacts.calls = [[paymentRecord]] := by decide +kernel
  have hmem : [paymentRecord] ∈ (ofUnit "A.sol" paymentUnit).map ContractFacts.calls := by
    rw [hrecords]
    exact List.mem_singleton_self _
  obtain ⟨facts, hfacts, hcalls⟩ := List.mem_map.mp hmem
  have hconversion : IsConversion paymentConversion := by decide
  have hnone : exprCalls false (Reading.ofNode paymentSource.toList paymentConversion).expr = [] := by
    rw [(hconverted paymentConversion hconversion).2]
    decide +kernel
  refine ⟨hunit, facts, hfacts, hcalls, ?_, hconversion, hnone⟩
  apply hfound paymentUnit hunit facts hfacts
  rw [hcalls]
  exact List.mem_singleton_self _

end ContractAudit.Facts
