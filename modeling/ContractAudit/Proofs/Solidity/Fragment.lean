import ContractAudit.Solidity.Walk
import Mathlib.Data.List.Nodup
import Mathlib.Data.List.Perm.Basic

/-!
# Fragments of a source and their occurrences

A traversal stands on a fragment: a sequence of statements, a statement or an expression. `Leads` says which steps go
down from a fragment and where they end, and an occurrence is a path of such steps. A path names one place in the tree,
also where equal fragments stand at several places.

`Fragment.occurrences` lists the occurrences of a tree, each once (`mem_occurrences`, `nodup_occurrences`), in the
order of `walk` (`walk_eq_occurrences`); `nested` reaches the statements among them that stand outside expressions
(`mem_nested`). Proofs about traversals go by `Fragment.induction`, which hands out the claim for the parts of a
fragment in place of one case for every constructor.
-/

namespace ContractAudit.Solidity

/-- What a traversal can stand on. -/
inductive Fragment where
  /-- Statements that run one after the other. -/
  | sequence (statements : List Stmt)
  | stmt (s : Stmt)
  | expr (e : Expr)

/-- One step down, with the fragment it starts from where that matters. -/
inductive Step where
  /-- To a statement of a sequence. -/
  | item (statements : List Stmt) (index : Nat)
  /-- From a statement to the sequence between its braces. -/
  | braces
  /-- From a branch or a loop to a statement that it governs. -/
  | arm (s : Stmt) (index : Nat)
  /-- From a statement to an expression directly below it. -/
  | clause (s : Stmt) (index : Nat)
  /-- From an expression to an expression directly below it. -/
  | operand (e : Expr) (index : Nat)
  /-- From an unrecognized expression to the statements that it carries. -/
  | carried

/-- The sequence that a statement consists of, if it is not a branch or a loop. -/
def Stmt.braced? : Stmt → Option (List Stmt)
  | .block _ body | .unchecked _ body => some body
  | .unrecognized _ _ statements _ => some statements
  | _ => none

/-- The statements that an unrecognized expression carries. -/
def Expr.carried? : Expr → Option (List Stmt)
  | .unrecognized _ _ statements _ => some statements
  | _ => none

/-- `Leads f step g`: from `f` the step goes down to `g`. -/
inductive Leads : Fragment → Step → Fragment → Prop
  | item {statements : List Stmt} {i : Nat} {s : Stmt} (h : statements[i]? = some s) :
    Leads (.sequence statements) (.item statements i) (.stmt s)
  | braces {s : Stmt} {statements : List Stmt} (h : s.braced? = some statements) :
    Leads (.stmt s) .braces (.sequence statements)
  | arm {s t : Stmt} {i : Nat} (hs : s.braced? = none) (h : s.statements[i]? = some t) :
    Leads (.stmt s) (.arm s i) (.stmt t)
  | clause {s : Stmt} {i : Nat} {e : Expr} (h : s.expressions[i]? = some e) : Leads (.stmt s) (.clause s i) (.expr e)
  | operand {e x : Expr} {i : Nat} (h : e.children[i]? = some x) : Leads (.expr e) (.operand e i) (.expr x)
  | carried {e : Expr} {statements : List Stmt} (h : e.carried? = some statements) :
    Leads (.expr e) .carried (.sequence statements)

/-- `Occurs f path g`: the path leads from `f` down to an occurrence of `g`. -/
inductive Occurs : Fragment → List Step → Fragment → Prop
  | here (f : Fragment) : Occurs f [] f
  | deeper {f part target : Fragment} {step : Step} {path : List Step} (hstep : Leads f step part)
    (hrest : Occurs part path target) : Occurs f (step :: path) target

/-! ## The parts of a fragment -/

/-- Items of a list behind steps that are numbered. -/
def numbered {α : Type} (step : Nat → Step) (fragment : α → Fragment) (items : List α) : List (Step × Fragment) :=
  items.mapIdx fun i a => (step i, fragment a)

theorem mem_numbered {α : Type} {step : Nat → Step} {fragment : α → Fragment} {items : List α} {p : Step × Fragment} :
    p ∈ numbered step fragment items ↔ ∃ i a, items[i]? = some a ∧ p = (step i, fragment a) := by
  simp only [numbered, List.mem_mapIdx]
  grind

theorem flatMap_numbered {α β : Type} (step : Nat → Step) (fragment : α → Fragment) (items : List α)
    (visit : Step × Fragment → List β) (k : α → List β)
    (h : ∀ i a, items[i]? = some a → visit (step i, fragment a) = k a) :
    (numbered step fragment items).flatMap visit = items.flatMap k := by
  induction items generalizing step with
  | nil => rfl
  | cons a items ih =>
    have htail := ih (fun i => step (i + 1)) fun i b hb => h (i + 1) b (by simpa using hb)
    simp only [numbered, List.mapIdx_cons, List.flatMap_cons] at htail ⊢
    rw [htail, h 0 a (by simp)]

theorem numbered_append {α : Type} (step : Nat → Step) (fragment : α → Fragment) (front back : List α) :
    numbered step fragment (front ++ back) =
      numbered step fragment front ++ numbered (fun i => step (i + front.length)) fragment back :=
  List.mapIdx_append

theorem map_fst_numbered {α : Type} (step : Nat → Step) (fragment : α → Fragment) (items : List α) :
    (numbered step fragment items).map Prod.fst = (List.range items.length).map step := by
  induction items generalizing step with
  | nil => rfl
  | cons a items ih =>
    have htail := ih fun i => step (i + 1)
    simp only [numbered, List.mapIdx_cons, List.map_cons] at htail ⊢
    rw [htail, List.length_cons, List.range_succ_eq_map, List.map_cons, List.map_map]
    rfl

def Expr.operands (e : Expr) : List (Step × Fragment) := numbered (.operand e) .expr e.children

def Stmt.clauses (s : Stmt) : List (Step × Fragment) := numbered (.clause s) .expr s.expressions

/-- The statements below a statement: the sequence that it consists of, or what it governs. -/
def Stmt.bodies (s : Stmt) : List (Step × Fragment) :=
  match s.braced? with
  | some statements => [(.braces, .sequence statements)]
  | none => numbered (.arm s) .stmt s.statements

/-- How many of the bodies stand in front of the clauses: the start of a loop does. -/
def Stmt.leading : Stmt → Nat
  | .forLoop (some _) .. => 1
  | _ => 0

/-- The parts of a fragment in the order in which `walk` goes through them, each behind its step. -/
def Fragment.parts : Fragment → List (Step × Fragment)
  | .sequence statements => numbered (.item statements) .stmt statements
  | .stmt s => s.bodies.take s.leading ++ s.clauses ++ s.bodies.drop s.leading
  | .expr e => e.carried?.toList.map (fun statements => (.carried, .sequence statements)) ++ e.operands

theorem Stmt.parts_perm (s : Stmt) : (Fragment.stmt s).parts.Perm (s.clauses ++ s.bodies) := by
  have hswap : (s.bodies.take s.leading ++ s.clauses).Perm (s.clauses ++ s.bodies.take s.leading) :=
    List.perm_append_comm
  have h := hswap.append_right (s.bodies.drop s.leading)
  rwa [List.append_assoc s.clauses, List.take_append_drop] at h

theorem Fragment.mem_parts {f g : Fragment} {step : Step} : (step, g) ∈ f.parts ↔ Leads f step g := by
  cases f with
  | sequence statements =>
    simp only [parts, mem_numbered, Prod.mk.injEq]
    constructor
    · rintro ⟨i, s, hs, rfl, rfl⟩
      exact .item hs
    · rintro ⟨hs⟩
      exact ⟨_, _, hs, rfl, rfl⟩
  | stmt s =>
    rw [s.parts_perm.mem_iff, List.mem_append, Stmt.clauses, mem_numbered, Stmt.bodies]
    constructor
    · rintro (⟨i, e, he, hp⟩ | h)
      · obtain ⟨rfl, rfl⟩ := Prod.mk.inj hp
        exact .clause he
      · split at h
        · obtain ⟨rfl, rfl⟩ := Prod.mk.inj (List.mem_singleton.mp h)
          exact .braces ‹_›
        · obtain ⟨i, t, ht, hp⟩ := mem_numbered.mp h
          obtain ⟨rfl, rfl⟩ := Prod.mk.inj hp
          exact .arm ‹_› ht
    · intro h
      cases h with
      | braces h => simp [h]
      | arm hs h =>
        rw [hs]
        exact .inr (mem_numbered.mpr ⟨_, _, h, rfl⟩)
      | clause h => exact .inl ⟨_, _, h, rfl⟩
  | expr e =>
    simp only [parts, Expr.operands, List.mem_append, mem_numbered, List.mem_map, Option.mem_toList, Prod.mk.injEq]
    constructor
    · rintro (⟨statements, h, rfl, rfl⟩ | ⟨i, x, h, rfl, rfl⟩)
      · exact .carried h
      · exact .operand h
    · intro h
      cases h with
      | carried h => exact .inl ⟨_, h, rfl, rfl⟩
      | operand h => exact .inr ⟨_, _, h, rfl, rfl⟩

theorem Fragment.nodup_steps (f : Fragment) : (f.parts.map Prod.fst).Nodup := by
  cases f with
  | sequence statements =>
    rw [parts, map_fst_numbered]
    exact List.nodup_range.map fun i j h => (Step.item.inj h).2
  | stmt s =>
    rw [(s.parts_perm.map Prod.fst).nodup_iff, List.map_append, Stmt.clauses, map_fst_numbered, Stmt.bodies]
    have hclauses : ((List.range s.expressions.length).map (Step.clause s)).Nodup :=
      List.nodup_range.map fun i j h => (Step.clause.inj h).2
    split
    · exact hclauses.append (List.nodup_singleton _) (by simp [List.Disjoint])
    · rw [map_fst_numbered]
      exact hclauses.append (List.nodup_range.map fun i j h => (Step.arm.inj h).2) (by simp [List.Disjoint])
  | expr e =>
    rw [parts, List.map_append, Expr.operands, map_fst_numbered]
    have hoperands : ((List.range e.children.length).map (Step.operand e)).Nodup :=
      List.nodup_range.map fun i j h => (Step.operand.inj h).2
    cases e.carried? with
    | none => simpa using hoperands
    | some statements => exact (List.nodup_singleton _).append hoperands (by simp [List.Disjoint])

/-! ## Induction on fragments -/

theorem Expr.sizeOf_child_lt {e x : Expr} (h : x ∈ e.children) : sizeOf x < sizeOf e := by
  cases e with
  | call p callee options arguments =>
    simp only [children, List.cons_append, List.mem_cons, List.mem_append] at h
    rcases h with rfl | h | h
    · simp only [Expr.call.sizeOf_spec]
      omega
    · have := List.sizeOf_lt_of_mem h
      simp only [Expr.call.sizeOf_spec]
      omega
    · have := List.sizeOf_lt_of_mem h
      simp only [Expr.call.sizeOf_spec]
      omega
  | index p base key => cases key <;> grind [children]
  | tuple p items =>
    have := List.sizeOf_lt_of_mem h
    grind [children]
  | unrecognized p kind statements expressions =>
    have := List.sizeOf_lt_of_mem h
    grind [children]
  | _ => grind [children]

theorem Stmt.sizeOf_expression_lt {s : Stmt} {e : Expr} (h : e ∈ s.expressions) : sizeOf e < sizeOf s := by
  cases s with
  | declaration p slots value => cases value <;> grind [expressions]
  | returns value => cases value <;> grind [expressions]
  | forLoop start test update body => cases test <;> cases update <;> grind [expressions]
  | emit p event arguments =>
    rcases List.mem_cons.mp h with rfl | h
    · simp only [Stmt.emit.sizeOf_spec]
      omega
    · have := List.sizeOf_lt_of_mem h
      simp only [Stmt.emit.sizeOf_spec]
      omega
  | revert error arguments =>
    rcases List.mem_append.mp h with h | h
    · cases error <;> grind
    · have := List.sizeOf_lt_of_mem h
      simp only [Stmt.revert.sizeOf_spec]
      omega
  | unrecognized p kind statements expressions =>
    have := List.sizeOf_lt_of_mem h
    grind [expressions]
  | _ => grind [expressions]

theorem Stmt.sizeOf_statement_lt {s t : Stmt} (h : t ∈ s.statements) : sizeOf t < sizeOf s := by
  cases s with
  | branch test yes no => cases no <;> grind [statements]
  | forLoop start test update body => cases start <;> grind [statements]
  | block p body =>
    have := List.sizeOf_lt_of_mem h
    grind [statements]
  | unchecked p body =>
    have := List.sizeOf_lt_of_mem h
    grind [statements]
  | unrecognized p kind statements expressions =>
    have := List.sizeOf_lt_of_mem h
    grind [Stmt.statements]
  | _ => grind [statements]

theorem Leads.sizeOf_lt {f g : Fragment} {step : Step} (h : Leads f step g) : sizeOf g < sizeOf f := by
  cases h with
  | item h =>
    have := List.sizeOf_lt_of_mem (List.mem_of_getElem? h)
    simpa using this
  | @braces s statements h => cases s <;> grind [Stmt.braced?]
  | arm _ h => simpa using Stmt.sizeOf_statement_lt (List.mem_of_getElem? h)
  | clause h => simpa using Stmt.sizeOf_expression_lt (List.mem_of_getElem? h)
  | operand h => simpa using Expr.sizeOf_child_lt (List.mem_of_getElem? h)
  | @carried e statements h => cases e <;> grind [Expr.carried?]

/-- What passes from the parts of a fragment to the fragment holds of every fragment. -/
@[elab_as_elim]
theorem Fragment.induction {motive : Fragment → Prop}
    (step : ∀ f, (∀ p ∈ f.parts, motive p.2) → motive f) (f : Fragment) : motive f :=
  step f fun p _ => Fragment.induction step p.2
termination_by sizeOf f
decreasing_by exact (mem_parts.mp ‹_›).sizeOf_lt

/-- What passes from the expressions directly below an expression to the expression holds of every expression. -/
@[elab_as_elim]
theorem Expr.induction {motive : Expr → Prop} (step : ∀ e, (∀ c ∈ e.children, motive c) → motive e) (e : Expr) :
    motive e :=
  step e fun c _ => Expr.induction step c
termination_by sizeOf e
decreasing_by exact sizeOf_child_lt ‹_›

/-- What passes from the statements directly below a statement to the statement holds of every statement. -/
@[elab_as_elim]
theorem Stmt.induction {motive : Stmt → Prop} (step : ∀ s, (∀ t ∈ s.statements, motive t) → motive s) (s : Stmt) :
    motive s :=
  step s fun t _ => Stmt.induction step t
termination_by sizeOf s
decreasing_by exact sizeOf_statement_lt ‹_›

/-! ## Occurrences -/

/-- A fragment together with the path to it. -/
structure Occurrence where
  path : List Step
  target : Fragment

/-- The occurrence seen from one step further up. -/
def Occurrence.under (step : Step) (o : Occurrence) : Occurrence := ⟨step :: o.path, o.target⟩

/-- The occurrences of a tree, a parent in front of what is below it. -/
def Fragment.occurrences (f : Fragment) : List Occurrence :=
  ⟨[], f⟩ :: f.parts.attach.flatMap fun p => p.1.2.occurrences.map (Occurrence.under p.1.1)
termination_by sizeOf f
decreasing_by exact (mem_parts.mp p.2).sizeOf_lt

theorem Fragment.occurrences_eq (f : Fragment) :
    f.occurrences = ⟨[], f⟩ :: f.parts.flatMap fun p => p.2.occurrences.map (Occurrence.under p.1) := by
  have hattach : (f.parts.attach.flatMap fun p => p.1.2.occurrences.map (Occurrence.under p.1.1)) =
      (f.parts.attach.map Subtype.val).flatMap fun p => p.2.occurrences.map (Occurrence.under p.1) := by
    rw [List.flatMap_map]
  rw [occurrences, hattach, List.attach_map_subtype_val]

theorem Fragment.mem_occurrences {f : Fragment} {o : Occurrence} : o ∈ f.occurrences ↔ Occurs f o.path o.target := by
  induction f using Fragment.induction generalizing o with
  | step f ih =>
    rw [occurrences_eq, List.mem_cons, List.mem_flatMap]
    constructor
    · rintro (rfl | ⟨p, hp, ho⟩)
      · exact .here f
      · obtain ⟨o', ho', rfl⟩ := List.mem_map.mp ho
        exact .deeper (mem_parts.mp hp) ((ih p hp).mp ho')
    · obtain ⟨path, target⟩ := o
      rintro (_ | @⟨_, part, _, step, rest, hstep, hrest⟩)
      · exact .inl rfl
      · have hp := mem_parts.mpr hstep
        exact .inr ⟨(step, part), hp, List.mem_map.mpr ⟨⟨rest, target⟩, (ih _ hp).mpr hrest, rfl⟩⟩

theorem Fragment.nodup_occurrences (f : Fragment) : (f.occurrences.map Occurrence.path).Nodup := by
  induction f using Fragment.induction with
  | step f ih =>
    have hpaths : f.occurrences.map Occurrence.path =
        [] :: f.parts.flatMap fun p => (p.2.occurrences.map Occurrence.path).map (p.1 :: ·) := by
      rw [occurrences_eq, List.map_cons, List.map_flatMap]
      simp only [List.map_map]
      rfl
    rw [hpaths, List.nodup_cons, List.nodup_flatMap]
    refine ⟨by simp, fun p hp => (ih p hp).map fun _ _ h => (List.cons.inj h).2, ?_⟩
    -- two parts stand behind different steps, which begin the paths
    refine (List.pairwise_map.mp f.nodup_steps).imp fun {p q} hne => ?_
    simp only [Function.onFun, List.Disjoint, List.mem_map]
    rintro _ ⟨_, _, rfl⟩ ⟨_, _, h⟩
    exact hne (List.cons.inj h).1.symm

/-! ## The traversal lists the expressions among the occurrences -/

def Fragment.expr? : Fragment → Option Expr
  | .expr e => some e
  | _ => none

/-- All expressions of a fragment. -/
def Fragment.walk : Fragment → List Expr
  | .sequence statements => walkStmts statements
  | .stmt s => s.walk
  | .expr e => e.walk

@[simp] theorem Fragment.walk_sequence (ss : List Stmt) : (Fragment.sequence ss).walk = walkStmts ss := rfl

@[simp] theorem Fragment.walk_stmt (s : Stmt) : (Fragment.stmt s).walk = s.walk := rfl

@[simp] theorem Fragment.walk_expr (e : Expr) : (Fragment.expr e).walk = e.walk := rfl

theorem walkExprs_eq (es : List Expr) : walkExprs es = es.flatMap Expr.walk := by
  induction es with
  | nil => rfl
  | cons e es ih => rw [walkExprs, ih, List.flatMap_cons]

theorem walkStmts_eq (ss : List Stmt) : walkStmts ss = ss.flatMap Stmt.walk := by
  induction ss with
  | nil => rfl
  | cons s ss ih => rw [walkStmts, ih, List.flatMap_cons]

theorem walkExpr?_eq (e : Option Expr) : walkExpr? e = e.toList.flatMap Expr.walk := by
  cases e <;> simp [walkExpr?]

theorem walkStmt?_eq (s : Option Stmt) : walkStmt? s = s.toList.flatMap Stmt.walk := by
  cases s <;> simp [walkStmt?]

theorem Expr.walk_operands (e : Expr) : (e.operands.flatMap fun p => p.2.walk) = e.children.flatMap Expr.walk :=
  flatMap_numbered _ _ _ _ _ fun _ _ _ => rfl

theorem Stmt.walk_clauses (s : Stmt) : (s.clauses.flatMap fun p => p.2.walk) = s.expressions.flatMap Expr.walk :=
  flatMap_numbered _ _ _ _ _ fun _ _ _ => rfl

theorem Expr.walk_eq (e : Expr) : e.walk = e :: ((e.carried?.toList.flatMap walkStmts) ++ e.children.flatMap walk) := by
  cases e <;> simp [walk, carried?, children, walkExprs_eq, walkExpr?_eq]

theorem Stmt.walk_eq (s : Stmt) : s.walk = ((s.bodies.take s.leading).flatMap fun p => p.2.walk) ++
    s.expressions.flatMap Expr.walk ++ ((s.bodies.drop s.leading).flatMap fun p => p.2.walk) := by
  cases s with
  | branch test yes no =>
    cases no <;> simp [walk, bodies, braced?, leading, expressions, statements, numbered, walkStmt?_eq]
  | forLoop start test update body =>
    cases start <;>
      simp [walk, bodies, braced?, leading, expressions, statements, numbered, walkStmt?_eq, walkExpr?_eq]
  | _ => simp [walk, bodies, braced?, leading, expressions, statements, numbered, walkExprs_eq, walkExpr?_eq]

theorem Fragment.walk_eq (f : Fragment) : f.walk = f.expr?.toList ++ f.parts.flatMap fun p => p.2.walk := by
  cases f with
  | sequence statements =>
    have hparts : ((Fragment.sequence statements).parts.flatMap fun p => p.2.walk) = statements.flatMap Stmt.walk :=
      flatMap_numbered _ _ _ _ _ fun _ _ _ => rfl
    rw [hparts, walk, walkStmts_eq]
    rfl
  | stmt s =>
    rw [parts, List.flatMap_append, List.flatMap_append, Stmt.walk_clauses]
    exact s.walk_eq
  | expr e =>
    rw [parts, List.flatMap_append, List.flatMap_map, Expr.walk_operands]
    exact e.walk_eq

/-- **The traversal lists the expressions among the occurrences**, in their order. -/
theorem Fragment.walk_eq_occurrences (f : Fragment) : f.walk = f.occurrences.filterMap fun o => o.target.expr? := by
  induction f using Fragment.induction with
  | step f ih =>
    have hparts : (f.parts.flatMap fun p => p.2.walk) =
        f.parts.flatMap fun p => p.2.occurrences.filterMap fun o => o.target.expr? :=
      List.flatMap_congr ih
    rw [walk_eq, hparts, occurrences_eq, List.filterMap_cons, List.filterMap_flatMap]
    simp only [List.filterMap_map]
    cases f <;> rfl

theorem Occurs.walk_subset {f g : Fragment} {path : List Step} (h : Occurs f path g) : g.walk ⊆ f.walk := by
  induction h with
  | here => exact List.Subset.refl _
  | deeper hstep _ ih =>
    refine List.Subset.trans ih fun x hx => ?_
    rw [Fragment.walk_eq, List.mem_append, List.mem_flatMap]
    exact .inr ⟨_, Fragment.mem_parts.mpr hstep, hx⟩

theorem Occurs.sizeOf_le {f g : Fragment} {path : List Step} (h : Occurs f path g) : sizeOf g ≤ sizeOf f := by
  induction h with
  | here => exact Nat.le_refl _
  | deeper hstep _ ih => exact Nat.le_trans ih (Nat.le_of_lt hstep.sizeOf_lt)

theorem Fragment.mem_walk {f : Fragment} {e : Expr} : e ∈ f.walk ↔ ∃ path, Occurs f path (.expr e) := by
  rw [walk_eq_occurrences, List.mem_filterMap]
  constructor
  · rintro ⟨⟨path, target⟩, ho, he⟩
    cases target with
    | expr x =>
      obtain rfl := Option.some.inj he
      exact ⟨path, mem_occurrences.mp ho⟩
    | _ => cases he
  · rintro ⟨path, h⟩
    exact ⟨⟨path, .expr e⟩, mem_occurrences.mpr h, rfl⟩

theorem Expr.walk_subset {e c : Expr} (h : c ∈ e.walk) : c.walk ⊆ e.walk := by
  obtain ⟨path, hpath⟩ := Fragment.mem_walk.mp (show c ∈ (Fragment.expr e).walk from h)
  exact hpath.walk_subset

theorem Expr.sizeOf_le_of_mem_walk {e c : Expr} (h : c ∈ e.walk) : sizeOf c ≤ sizeOf e := by
  obtain ⟨path, hpath⟩ := Fragment.mem_walk.mp (show c ∈ (Fragment.expr e).walk from h)
  simpa using hpath.sizeOf_le

theorem Expr.mem_walk_self (e : Expr) : e ∈ e.walk := by
  rw [walk_eq]
  exact List.mem_cons_self

theorem Expr.mem_walk_of_child {e c x : Expr} (hc : c ∈ e.children) (hx : x ∈ c.walk) : x ∈ e.walk := by
  rw [walk_eq, List.mem_cons, List.mem_append, List.mem_flatMap, List.mem_flatMap]
  exact .inr (.inr ⟨c, hc, hx⟩)

/-! ## Names in an expression -/

theorem exists_of_identifier? {e : Expr} {name : String} (h : e.identifier? = some name) :
    ∃ p, e = .identifier p name := by
  cases e with
  | identifier p n => exact ⟨p, by rw [Option.some.inj h]⟩
  | _ => cases h

theorem mentions_iff {e : Expr} {name : String} : e.mentions name = true ↔ ∃ p, Expr.identifier p name ∈ e.walk := by
  rw [Expr.mentions, List.any_eq_true]
  constructor
  · rintro ⟨y, hy, hname⟩
    obtain ⟨p, rfl⟩ := exists_of_identifier? (beq_iff_eq.mp hname)
    exact ⟨p, hy⟩
  · rintro ⟨p, hp⟩
    exact ⟨_, hp, beq_iff_eq.mpr rfl⟩

/-! ## Statements that are reached outside expressions -/

/-- All statements of a fragment, not through expressions. -/
def Fragment.nested : Fragment → List Stmt
  | .sequence statements => nestedAll statements
  | .stmt s => s.nested
  | .expr _ => []

theorem nestedAll_eq (ss : List Stmt) : nestedAll ss = ss.flatMap Stmt.nested := by
  induction ss with
  | nil => rfl
  | cons s ss ih => rw [nestedAll, ih, List.flatMap_cons]

theorem nested?_eq (s : Option Stmt) : nested? s = s.toList.flatMap Stmt.nested := by
  cases s <;> simp [nested?]

theorem Stmt.nested_eq (s : Stmt) : s.nested = s :: s.statements.flatMap nested := by
  cases s <;> simp [nested, statements, nestedAll_eq, nested?_eq]

theorem Stmt.statements_of_braced? {s : Stmt} {ss : List Stmt} (h : s.braced? = some ss) : s.statements = ss := by
  cases s <;> simp_all [braced?, statements]

/-- One step of the traversal: it reaches the fragment itself, if that is a statement, and goes on through every step
that does not leave an expression. -/
theorem Fragment.mem_nested_step {f : Fragment} {s : Stmt} :
    s ∈ f.nested ↔ f = .stmt s ∨ ∃ step part, Leads f step part ∧ step ≠ .carried ∧ s ∈ part.nested := by
  cases f with
  | sequence statements =>
    rw [nested, nestedAll_eq, List.mem_flatMap]
    constructor
    · rintro ⟨t, ht, hs⟩
      obtain ⟨i, hi⟩ := List.getElem?_of_mem ht
      exact .inr ⟨_, _, .item hi, by simp, hs⟩
    · rintro (h | ⟨_, _, ⟨hi⟩, -, hs⟩)
      · cases h
      · exact ⟨_, List.mem_of_getElem? hi, hs⟩
  | stmt t =>
    rw [nested, t.nested_eq, List.mem_cons, List.mem_flatMap]
    constructor
    · rintro (rfl | ⟨u, hu, hs⟩)
      · exact .inl rfl
      · right
        cases hb : t.braced? with
        | some ss =>
          rw [t.statements_of_braced? hb] at hu
          refine ⟨_, _, .braces hb, by simp, ?_⟩
          rw [nested, nestedAll_eq]
          exact List.mem_flatMap.mpr ⟨u, hu, hs⟩
        | none =>
          obtain ⟨i, hi⟩ := List.getElem?_of_mem hu
          exact ⟨_, _, .arm hb hi, by simp, hs⟩
    · rintro (h | ⟨step, part, hstep, -, hs⟩)
      · exact .inl (Fragment.stmt.inj h).symm
      · cases hstep with
        | braces hb =>
          rw [nested, nestedAll_eq, ← t.statements_of_braced? hb] at hs
          exact .inr (List.mem_flatMap.mp hs)
        | arm _ hi => exact .inr ⟨_, List.mem_of_getElem? hi, hs⟩
        | clause _ => cases hs
  | expr e =>
    -- an expression is left only through the statements that it carries
    constructor
    · intro hs
      cases hs
    · rintro (h | ⟨step, part, hstep, hcarried, hs⟩)
      · cases h
      · cases hstep with
        | operand _ => cases hs
        | carried _ => exact absurd rfl hcarried

/-- **The traversal reaches the statements behind the paths that leave no expression.** -/
theorem Fragment.mem_nested {f : Fragment} {s : Stmt} :
    s ∈ f.nested ↔ ∃ path, Occurs f path (.stmt s) ∧ Step.carried ∉ path := by
  induction f using Fragment.induction with
  | step f ih =>
    rw [mem_nested_step]
    constructor
    · rintro (rfl | ⟨step, part, hstep, hcarried, hs⟩)
      · exact ⟨[], .here _, List.not_mem_nil⟩
      · obtain ⟨path, hpath, hfree⟩ := (ih _ (mem_parts.mpr hstep)).mp hs
        exact ⟨step :: path, .deeper hstep hpath, List.not_mem_cons_of_ne_of_not_mem hcarried.symm hfree⟩
    · rintro ⟨path, hpath, hfree⟩
      cases hpath with
      | here => exact .inl rfl
      | deeper hstep hrest =>
        rw [List.mem_cons, not_or] at hfree
        exact .inr ⟨_, _, hstep, Ne.symm hfree.1, (ih _ (mem_parts.mpr hstep)).mpr ⟨_, hrest, hfree.2⟩⟩

end ContractAudit.Solidity
