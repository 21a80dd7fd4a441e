import ContractAudit.Proofs.Solidity.Fragment
import ContractAudit.Proofs.Solidity.Sites

/-!
# What holds of every expression that is read

A predicate holds throughout a tree if it holds of every expression that a traversal visits. Reading a node makes one
expression or statement around those of the nodes below it, and of all that is made this way only a call node can become
a call of a member; conversions are calls by name. So a predicate that holds of every other expression, and of what the
call nodes of a tree are read as, holds throughout what is read (`Reading.throughout_ofNode`).
-/

namespace ContractAudit.Solidity

open ContractAudit.Tree (Head Node)

variable {P : Expr → Prop}

/-! ## Expressions and statements -/

/-- The predicate holds of the expression and of every expression below it. -/
def Expr.Throughout (P : Expr → Prop) (e : Expr) : Prop := ∀ x ∈ e.walk, P x

/-- The predicate holds of every expression of the statement. -/
def Stmt.Throughout (P : Expr → Prop) (s : Stmt) : Prop := ∀ x ∈ s.walk, P x

theorem Expr.throughout_iff {e : Expr} : e.Throughout P ↔
    P e ∧ (∀ ss, e.carried? = some ss → ∀ s ∈ ss, s.Throughout P) ∧ ∀ c ∈ e.children, c.Throughout P := by
  unfold Expr.Throughout Stmt.Throughout
  rw [e.walk_eq]
  simp only [List.mem_cons, List.mem_append, List.mem_flatMap, Option.mem_toList, walkStmts_eq]
  grind

theorem Stmt.throughout_iff {s : Stmt} : s.Throughout P ↔
    (∀ t ∈ s.statements, t.Throughout P) ∧ ∀ e ∈ s.expressions, e.Throughout P := by
  unfold Expr.Throughout Stmt.Throughout
  have hmem : ∀ x, x ∈ s.walk ↔ (∃ t ∈ s.statements, x ∈ t.walk) ∨ ∃ e ∈ s.expressions, x ∈ e.walk := by
    intro x
    cases s <;>
      simp [Stmt.walk, Stmt.statements, Stmt.expressions, walkStmts_eq, walkExprs_eq, walkExpr?_eq, walkStmt?_eq] <;> grind
  grind

theorem Expr.throughout_of_children {e : Expr} (he : P e) (hcarried : e.carried? = none)
    (h : ∀ c ∈ e.children, c.Throughout P) : e.Throughout P := by
  refine Expr.throughout_iff.mpr ⟨he, ?_, h⟩
  intro ss hss
  rw [hcarried] at hss
  cases hss

theorem Expr.throughout_of_leaf {e : Expr} (he : P e) (hcarried : e.carried? = none) (hchildren : e.children = []) :
    e.Throughout P := by
  apply Expr.throughout_of_children he hcarried
  rw [hchildren]
  exact List.forall_mem_nil _

theorem Stmt.throughout_of_expressions {s : Stmt} (hstatements : s.statements = [])
    (h : ∀ e ∈ s.expressions, e.Throughout P) : s.Throughout P := by
  refine Stmt.throughout_iff.mpr ⟨?_, h⟩
  rw [hstatements]
  exact List.forall_mem_nil _

theorem Stmt.throughout_of_statements {s : Stmt} (hexpressions : s.expressions = [])
    (h : ∀ t ∈ s.statements, t.Throughout P) : s.Throughout P := by
  refine Stmt.throughout_iff.mpr ⟨h, ?_⟩
  rw [hexpressions]
  exact List.forall_mem_nil _

/-- The predicate can only fail for a call of a member. -/
def HoldsElsewhere (P : Expr → Prop) : Prop := ∀ e : Expr, e.calledMember? = none → P e

/-! ## Readings -/

/-- The predicate holds throughout all forms of a node. -/
structure Forms.Throughout (P : Expr → Prop) (f : Forms) : Prop where
  stmt : f.stmt.Throughout P
  expr : f.expr.Throughout P
  target : f.callee.target.Throughout P
  options : ∀ e ∈ f.callee.options, e.Throughout P

/-- The predicate holds throughout the forms of a node and of all nodes below it. -/
inductive Reading.Throughout (P : Expr → Prop) : Reading → Prop
  | mk {head : Head} {forms : Forms} {children : List Reading} (here : forms.Throughout P)
      (below : ∀ r ∈ children, r.Throughout P) : Throughout P (.mk head forms children)

theorem Reading.Throughout.forms {r : Reading} (h : r.Throughout P) : r.forms.Throughout P := by
  cases h with
  | mk here below => exact here

theorem Reading.Throughout.children {r : Reading} (h : r.Throughout P) : ∀ c ∈ r.children, c.Throughout P := by
  cases h with
  | mk here below => exact below

namespace Site

theorem mem_parts_of_eq_singleton {s : Site} {single : Reading} (h : s.parts = [single]) : single ∈ s.parts := by
  rw [h]
  exact List.mem_singleton_self single

section

variable {s : Site} (h : ∀ r ∈ s.children, r.Throughout P)
include h

theorem expr_of_mem_parts {r : Reading} (hr : r ∈ s.parts) : r.expr.Throughout P :=
  (h r (mem_children_of_mem_parts hr)).forms.expr

theorem stmt_of_mem_parts {r : Reading} (hr : r ∈ s.parts) : r.stmt.Throughout P :=
  (h r (mem_children_of_mem_parts hr)).forms.stmt

theorem expr_of_role? {role : String} {r : Reading} (hr : s.role? role = some r) : r.expr.Throughout P :=
  (h r (mem_children_of_role? hr)).forms.expr

theorem stmt_of_role? {role : String} {r : Reading} (hr : s.role? role = some r) : r.stmt.Throughout P :=
  (h r (mem_children_of_role? hr)).forms.stmt

theorem expr_of_optional_role {role : String} : ∀ e ∈ ((s.role? role).map (·.expr)).toList, e.Throughout P := by
  intro e he
  obtain ⟨r, hr, rfl⟩ := Option.map_eq_some_iff.mp (Option.mem_toList.mp he)
  exact expr_of_role? h hr

theorem stmt_of_optional_role {role : String} : ∀ t ∈ ((s.role? role).map (·.stmt)).toList, t.Throughout P := by
  intro t ht
  obtain ⟨r, hr, rfl⟩ := Option.map_eq_some_iff.mp (Option.mem_toList.mp ht)
  exact stmt_of_role? h hr

theorem expr_of_role_or_first {role : String} {r : Reading} (hr : (s.role? role).or s.parts.head? = some r) :
    r.expr.Throughout P := by
  rcases Option.or_eq_some_iff.mp hr with hrole | ⟨-, hfirst⟩
  · exact expr_of_role? h hrole
  · exact expr_of_mem_parts h (List.mem_of_head? hfirst)

theorem throughout_below {r : Reading} (hr : r ∈ s.children) : ∀ c ∈ (s.below r).children, c.Throughout P :=
  (h r hr).children

theorem throughout_block : ∀ t ∈ s.block.statements, t.Throughout P := by
  intro t ht
  obtain ⟨r, hr, rfl⟩ := List.mem_map.mp ht
  exact stmt_of_mem_parts h hr

theorem throughout_carried_statements : ∀ t ∈ s.carried.statements, t.Throughout P := by
  intro t ht
  obtain ⟨r, hr, rfl⟩ := List.mem_map.mp ht
  exact stmt_of_mem_parts h (List.mem_filter.mp hr).1

theorem throughout_carried_expressions : ∀ e ∈ s.carried.expressions, e.Throughout P := by
  intro e he
  obtain ⟨r, hr, rfl⟩ := List.mem_map.mp he
  exact expr_of_mem_parts h (List.mem_filter.mp hr).1

theorem throughout_carried_stmt : s.carried.stmt.Throughout P :=
  Stmt.throughout_iff.mpr ⟨throughout_carried_statements h, throughout_carried_expressions h⟩

theorem throughout_carried_expr (helsewhere : HoldsElsewhere P) : s.carried.expr.Throughout P := by
  refine Expr.throughout_iff.mpr ⟨helsewhere _ rfl, ?_, throughout_carried_expressions h⟩
  intro ss hss
  obtain rfl := Option.some.inj hss
  exact throughout_carried_statements h

theorem throughout_arguments (helsewhere : HoldsElsewhere P) : ∀ e ∈ s.arguments, e.Throughout P := by
  intro e he
  obtain ⟨r, hr, rfl⟩ := List.mem_map.mp he
  have hbelow := throughout_below h (mem_children_of_mem_partsOfKind hr)
  split
  · next hparts => exact expr_of_mem_parts hbelow (mem_parts_of_eq_singleton hparts)
  · exact throughout_carried_expr hbelow helsewhere

theorem throughout_options : ∀ e ∈ s.options, e.Throughout P := by
  intro e he
  obtain ⟨r, hr, hoption⟩ := List.mem_filterMap.mp he
  have hbelow := throughout_below h (mem_children_of_mem_partsOfKind hr)
  obtain ⟨value, hvalue, rfl⟩ := Option.map_eq_some_iff.mp hoption
  rcases Option.or_eq_some_iff.mp hvalue with hrole | ⟨-, hlast⟩
  · exact expr_of_role? hbelow hrole
  · exact expr_of_mem_parts hbelow (List.mem_of_getLast? hlast)

theorem throughout_loopTest? : ∀ e, s.loopTest? = some e → e.Throughout P := by
  intro e he
  obtain ⟨r, hr, htest⟩ := Option.bind_eq_some_iff.mp he
  split at htest
  · obtain ⟨first, hfirst, rfl⟩ := Option.map_eq_some_iff.mp htest
    exact expr_of_mem_parts (throughout_below h (mem_children_of_role? hr)) (List.mem_of_head? hfirst)
  · split at htest
    · obtain rfl := Option.some.inj htest
      exact expr_of_role? h hr
    · cases htest

theorem throughout_conversion (helsewhere : HoldsElsewhere P) : s.conversion.Throughout P := by
  refine Expr.throughout_of_children (helsewhere _ rfl) rfl ?_
  intro c hc
  rcases List.mem_cons.mp hc with rfl | hc
  · exact Expr.throughout_of_leaf (helsewhere _ rfl) rfl rfl
  · obtain ⟨r, hr, rfl⟩ := List.mem_map.mp hc
    exact expr_of_mem_parts h (List.mem_filter.mp hr).1

theorem throughout_expr (helsewhere : HoldsElsewhere P) (hcall : s.kind = "call_expression" → P s.expr) :
    s.expr.Throughout P := by
  have hcarried := throughout_carried_expr h helsewhere
  revert hcall
  generalize hexpr : s.expr = e
  intro hcall
  unfold expr at hexpr
  split at hexpr
  -- a wrapper around a single expression
  case h_1 | h_2 | h_3 =>
    split at hexpr
    · next hparts =>
      subst hexpr
      exact expr_of_mem_parts h (mem_parts_of_eq_singleton hparts)
    · subst hexpr
      exact hcarried
  -- names
  case h_4 | h_5 | h_6 =>
    subst hexpr
    exact Expr.throughout_of_leaf (helsewhere _ rfl) rfl rfl
  case h_7 =>
    split at hexpr
    · next object name hobject _ =>
      subst hexpr
      refine Expr.throughout_of_children (helsewhere _ rfl) rfl ?_
      exact List.forall_mem_singleton.mpr (expr_of_role? h hobject)
    · subst hexpr
      exact hcarried
  -- the only place where a call of a member is made
  case h_8 hkind =>
    split at hexpr
    · next function hfunction =>
      have hforms := (h function (mem_children_of_role? hfunction)).forms
      subst hexpr
      refine Expr.throughout_of_children (hcall hkind) rfl ?_
      intro c hc
      simp only [Expr.children, List.cons_append, List.mem_cons, List.mem_append] at hc
      rcases hc with rfl | hc | hc
      · exact hforms.target
      · exact hforms.options c hc
      · exact throughout_arguments h helsewhere c hc
    · subst hexpr
      exact hcarried
  case h_9 | h_10 =>
    subst hexpr
    exact throughout_conversion h helsewhere
  case h_11 | h_12 =>
    split at hexpr
    · next base hbase =>
      subst hexpr
      refine Expr.throughout_of_children (helsewhere _ rfl) rfl ?_
      exact List.forall_mem_cons.mpr ⟨expr_of_role? h hbase, expr_of_optional_role h⟩
    · subst hexpr
      exact hcarried
  case h_13 | h_14 | h_15 =>
    split at hexpr
    · next left right hleft hright =>
      subst hexpr
      refine Expr.throughout_of_children (helsewhere _ rfl) rfl ?_
      exact List.forall_mem_cons.mpr ⟨expr_of_role? h hleft, List.forall_mem_singleton.mpr (expr_of_role? h hright)⟩
    · subst hexpr
      exact hcarried
  case h_16 | h_17 =>
    split at hexpr
    · next operand hoperand =>
      subst hexpr
      refine Expr.throughout_of_children (helsewhere _ rfl) rfl ?_
      exact List.forall_mem_singleton.mpr (expr_of_role_or_first h hoperand)
    · subst hexpr
      exact hcarried
  case h_18 =>
    split at hexpr
    · next test yes no hparts =>
      subst hexpr
      refine Expr.throughout_of_children (helsewhere _ rfl) rfl ?_
      have hparts' : ∀ r ∈ [test, yes, no], r.expr.Throughout P := by
        rw [← hparts]
        exact fun r hr => expr_of_mem_parts h hr
      exact List.forall_mem_map.mpr hparts'
    · subst hexpr
      exact hcarried
  case h_19 | h_20 =>
    subst hexpr
    refine Expr.throughout_of_children (helsewhere _ rfl) rfl ?_
    exact List.forall_mem_map.mpr fun r hr => expr_of_mem_parts h hr
  case h_21 =>
    split at hexpr
    · subst hexpr
      exact Expr.throughout_of_leaf (helsewhere _ rfl) rfl rfl
    · subst hexpr
      exact hcarried

theorem throughout_callee (hexpr : s.expr.Throughout P) :
    s.callee.target.Throughout P ∧ ∀ e ∈ s.callee.options, e.Throughout P := by
  unfold callee
  split
  · split
    · next single hparts =>
      have hforms := (h single (mem_children_of_mem_parts (mem_parts_of_eq_singleton hparts))).forms
      exact ⟨hforms.target, hforms.options⟩
    · exact ⟨hexpr, List.forall_mem_nil _⟩
  · split
    · next htarget => exact ⟨expr_of_role_or_first h htarget, throughout_options h⟩
    · exact ⟨hexpr, List.forall_mem_nil _⟩
  · exact ⟨hexpr, List.forall_mem_nil _⟩

theorem throughout_unchecked {b : Block}
    (hb : b = ((s.partsOfKind "block_statement").head?.map fun r => (s.below r).block).getD s.block) :
    ∀ t ∈ b.statements, t.Throughout P := by
  subst hb
  cases hinner : (s.partsOfKind "block_statement").head? with
  | none => exact throughout_block h
  | some r =>
    exact throughout_block (throughout_below h (mem_children_of_mem_partsOfKind (List.mem_of_head? hinner)))

theorem throughout_for_statements :
    ∀ t ∈ (((s.role? "initial").filter (·.head.named)).map (·.stmt)).toList ++
      [((s.role? "body").map (·.stmt)).getD (.block ⟨0, 0⟩ [])], t.Throughout P := by
  intro t ht
  rcases List.mem_append.mp ht with ht | ht
  · obtain ⟨r, hr, rfl⟩ := Option.map_eq_some_iff.mp (Option.mem_toList.mp ht)
    exact stmt_of_role? h (Option.filter_eq_some_iff.mp hr).1
  · rw [List.mem_singleton.mp ht]
    cases hbody : s.role? "body" with
    | none => exact Stmt.throughout_of_statements rfl (List.forall_mem_nil _)
    | some r => exact stmt_of_role? h hbody

theorem throughout_stmt (helsewhere : HoldsElsewhere P) : s.stmt.Throughout P := by
  have hcarried := throughout_carried_stmt h
  unfold stmt
  split
  case h_1 =>
    cases hfirst : s.parts.head? with
    | none => exact hcarried
    | some r => exact stmt_of_mem_parts h (List.mem_of_head? hfirst)
  case h_2 | h_3 => exact Stmt.throughout_of_statements rfl (throughout_block h)
  case h_4 => exact Stmt.throughout_of_statements rfl (throughout_unchecked h rfl)
  case h_5 =>
    cases hfirst : s.parts.head? with
    | none => exact hcarried
    | some r =>
      refine Stmt.throughout_of_expressions rfl (List.forall_mem_singleton.mpr ?_)
      exact expr_of_mem_parts h (List.mem_of_head? hfirst)
  case h_6 => exact Stmt.throughout_of_expressions rfl (expr_of_optional_role h)
  case h_7 =>
    split
    · next test yes htest hyes =>
      refine Stmt.throughout_iff.mpr ⟨?_, List.forall_mem_singleton.mpr (expr_of_role? h htest)⟩
      exact List.forall_mem_cons.mpr ⟨stmt_of_role? h hyes, stmt_of_optional_role h⟩
    · exact hcarried
  case h_8 =>
    refine Stmt.throughout_iff.mpr ⟨throughout_for_statements h, ?_⟩
    intro e he
    rcases List.mem_append.mp he with he | he
    · exact throughout_loopTest? h e (Option.mem_toList.mp he)
    · exact expr_of_optional_role h e he
  case h_9 | h_10 =>
    split
    · next test body htest hbody =>
      exact Stmt.throughout_iff.mpr ⟨List.forall_mem_singleton.mpr (stmt_of_role? h hbody),
        List.forall_mem_singleton.mpr (expr_of_role? h htest)⟩
    · exact hcarried
  case h_11 =>
    refine Stmt.throughout_of_expressions rfl ?_
    intro e he
    obtain ⟨r, hr, rfl⟩ := Option.map_eq_some_iff.mp (Option.mem_toList.mp he)
    exact expr_of_mem_parts h (List.mem_of_head? hr)
  case h_12 =>
    split
    · next event hevent =>
      refine Stmt.throughout_of_expressions rfl ?_
      exact List.forall_mem_cons.mpr ⟨expr_of_role? h hevent, throughout_arguments h helsewhere⟩
    · exact hcarried
  case h_13 =>
    refine Stmt.throughout_of_expressions rfl ?_
    intro e he
    rcases List.mem_append.mp he with he | he
    · exact expr_of_optional_role h e he
    · exact throughout_arguments h helsewhere e he
  case h_14 => exact hcarried

theorem throughout_forms (helsewhere : HoldsElsewhere P) (hcall : s.kind = "call_expression" → P s.expr) :
    s.forms.Throughout P := by
  have hexpr := throughout_expr h helsewhere hcall
  obtain ⟨htarget, hoptions⟩ := throughout_callee h hexpr
  exact ⟨throughout_stmt h helsewhere, hexpr, htarget, hoptions⟩

theorem throughout_body? {b : Block} (hb : s.body? = some b) : ∀ t ∈ b.statements, t.Throughout P := by
  obtain ⟨r, hr, rfl⟩ := Option.map_eq_some_iff.mp hb
  have hchild : r ∈ s.children := by
    rcases Option.or_eq_some_iff.mp hr with hrole | ⟨-, hfirst⟩
    · exact mem_children_of_role? hrole
    · exact mem_children_of_mem_partsOfKind (List.mem_of_head? hfirst)
  exact throughout_block (throughout_below h hchild)

end

end Site

/-! ## Trees -/

mutual

/-- **What holds of every expression but calls of members, and of what the call nodes of a tree are read as, holds
throughout what is read.** -/
theorem Reading.throughout_ofNode (source : List Char) (helsewhere : HoldsElsewhere P) : (n : Node) →
    (∀ m ∈ n.nodes, m.kind = "call_expression" → P (Reading.ofNode source m).expr) →
      (Reading.ofNode source n).Throughout P
  | .mk head children, hcall => by
    have hbelow := Reading.throughout_ofNodes source helsewhere children fun m hm =>
      hcall m (Node.mem_nodes_of_mem_nodesIn hm)
    exact .mk (Site.throughout_forms hbelow helsewhere (hcall _ (Node.mem_nodes_self _))) hbelow

theorem Reading.throughout_ofNodes (source : List Char) (helsewhere : HoldsElsewhere P) : (ns : List Node) →
    (∀ m ∈ Tree.nodesIn ns, m.kind = "call_expression" → P (Reading.ofNode source m).expr) →
      ∀ r ∈ Reading.ofNodes source ns, r.Throughout P
  | [], _ => List.forall_mem_nil _
  | n :: ns, hcall => by
    have hfirst := Reading.throughout_ofNode source helsewhere n fun m hm => hcall m (List.mem_append_left _ hm)
    have hrest := Reading.throughout_ofNodes source helsewhere ns fun m hm => hcall m (List.mem_append_right _ hm)
    exact List.forall_mem_cons.mpr ⟨hfirst, hrest⟩

end

end ContractAudit.Solidity
