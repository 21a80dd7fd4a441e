import ContractAudit.Proofs.Solidity.Fragment

/-!
# The order of a traversal

A traversal visits every expression of a tree exactly once, a parent in front of what is below it, and the visits below
an expression stand together. Two descriptions of a tree say what there is to visit. `Fragment.tally` counts expressions
field by field, with any property that they may have. The occurrences of a tree tell its expressions apart by the paths
that lead to them, and so say which stands below which: the path to the one begins the path to the other.

The visits below an occurrence are cut out of all visits by going down its path (`Occurs.exists_visits_split`): one step
down leaves the visits of the other parts in front and behind, and those are behind other steps.
-/

namespace ContractAudit.Solidity

/-! ## Counting field by field -/

/-- One for an expression that satisfies the predicate. -/
def Expr.own (p : Expr → Bool) (e : Expr) : Nat := if p e then 1 else 0

mutual

/-- The number of expressions of an expression, itself included, that satisfy the predicate. -/
def Expr.tally (p : Expr → Bool) : Expr → Nat
  | .identifier q name => (Expr.identifier q name).own p
  | .literal q text => (Expr.literal q text).own p
  | .member q object name => (Expr.member q object name).own p + object.tally p
  | .call q callee options arguments =>
    (Expr.call q callee options arguments).own p + callee.tally p + tallyExprs p options + tallyExprs p arguments
  | .index q base key => (Expr.index q base key).own p + base.tally p + tallyExpr? p key
  | .binary q left operator right => (Expr.binary q left operator right).own p + left.tally p + right.tally p
  | .assignment q left operator right => (Expr.assignment q left operator right).own p + left.tally p + right.tally p
  | .unary q operator operand => (Expr.unary q operator operand).own p + operand.tally p
  | .conditional q test yes no => (Expr.conditional q test yes no).own p + test.tally p + yes.tally p + no.tally p
  | .tuple q items => (Expr.tuple q items).own p + tallyExprs p items
  | .unrecognized q kind statements expressions =>
    (Expr.unrecognized q kind statements expressions).own p + tallyStmts p statements + tallyExprs p expressions

/-- The number of expressions of a statement that satisfy the predicate. -/
def Stmt.tally (p : Expr → Bool) : Stmt → Nat
  | .block _ body | .unchecked _ body => tallyStmts p body
  | .expression value => value.tally p
  | .declaration _ _ value => tallyExpr? p value
  | .branch test yes no => test.tally p + yes.tally p + tallyStmt? p no
  | .forLoop start test update body => tallyStmt? p start + tallyExpr? p test + tallyExpr? p update + body.tally p
  | .whileLoop test body => test.tally p + body.tally p
  | .doLoop body test => body.tally p + test.tally p
  | .returns value => tallyExpr? p value
  | .emit _ event arguments => event.tally p + tallyExprs p arguments
  | .revert error arguments => tallyExpr? p error + tallyExprs p arguments
  | .unrecognized _ _ statements expressions => tallyStmts p statements + tallyExprs p expressions

def tallyExprs (p : Expr → Bool) : List Expr → Nat
  | [] => 0
  | e :: es => e.tally p + tallyExprs p es

def tallyStmts (p : Expr → Bool) : List Stmt → Nat
  | [] => 0
  | s :: ss => s.tally p + tallyStmts p ss

def tallyExpr? (p : Expr → Bool) : Option Expr → Nat
  | none => 0
  | some e => e.tally p

def tallyStmt? (p : Expr → Bool) : Option Stmt → Nat
  | none => 0
  | some s => s.tally p

end

/-- The number of expressions of a fragment that satisfy the predicate. -/
def Fragment.tally (p : Expr → Bool) : Fragment → Nat
  | .sequence statements => tallyStmts p statements
  | .stmt s => s.tally p
  | .expr e => e.tally p

variable {p : Expr → Bool}

theorem countP_cons_own (e : Expr) (es : List Expr) : (e :: es).countP p = e.own p + es.countP p := by
  rw [List.countP_cons, Nat.add_comm]
  rfl

mutual

theorem Expr.countP_walk : (e : Expr) → e.walk.countP p = e.tally p
  | .identifier .. | .literal .. => by simp only [Expr.walk, Expr.tally, countP_cons_own, List.countP_nil, Nat.add_zero]
  | .member _ object _ => by simp only [Expr.walk, Expr.tally, countP_cons_own, object.countP_walk]
  | .call _ callee options arguments => by
    simp only [Expr.walk, Expr.tally, countP_cons_own, List.countP_append, callee.countP_walk, countP_walkExprs options,
      countP_walkExprs arguments, Nat.add_assoc]
  | .index _ base key => by
    simp only [Expr.walk, Expr.tally, countP_cons_own, List.countP_append, base.countP_walk, countP_walkExpr? key,
      Nat.add_assoc]
  | .binary _ left _ right | .assignment _ left _ right => by
    simp only [Expr.walk, Expr.tally, countP_cons_own, List.countP_append, left.countP_walk, right.countP_walk,
      Nat.add_assoc]
  | .unary _ _ operand => by simp only [Expr.walk, Expr.tally, countP_cons_own, operand.countP_walk]
  | .conditional _ test yes no => by
    simp only [Expr.walk, Expr.tally, countP_cons_own, List.countP_append, test.countP_walk, yes.countP_walk,
      no.countP_walk, Nat.add_assoc]
  | .tuple _ items => by simp only [Expr.walk, Expr.tally, countP_cons_own, countP_walkExprs items]
  | .unrecognized _ _ statements expressions => by
    simp only [Expr.walk, Expr.tally, countP_cons_own, List.countP_append, countP_walkStmts statements,
      countP_walkExprs expressions, Nat.add_assoc]

theorem Stmt.countP_walk : (s : Stmt) → s.walk.countP p = s.tally p
  | .block _ body | .unchecked _ body => by simp only [Stmt.walk, Stmt.tally, countP_walkStmts body]
  | .expression value => by simp only [Stmt.walk, Stmt.tally, value.countP_walk]
  | .declaration _ _ value | .returns value => by simp only [Stmt.walk, Stmt.tally, countP_walkExpr? value]
  | .branch test yes no => by
    simp only [Stmt.walk, Stmt.tally, List.countP_append, test.countP_walk, yes.countP_walk, countP_walkStmt? no]
  | .forLoop start test update body => by
    simp only [Stmt.walk, Stmt.tally, List.countP_append, countP_walkStmt? start, countP_walkExpr? test,
      countP_walkExpr? update, body.countP_walk]
  | .whileLoop test body => by simp only [Stmt.walk, Stmt.tally, List.countP_append, test.countP_walk, body.countP_walk]
  | .doLoop body test => by
    simp only [Stmt.walk, Stmt.tally, List.countP_append, test.countP_walk, body.countP_walk, Nat.add_comm]
  | .emit _ event arguments => by
    simp only [Stmt.walk, Stmt.tally, List.countP_append, event.countP_walk, countP_walkExprs arguments]
  | .revert error arguments => by
    simp only [Stmt.walk, Stmt.tally, List.countP_append, countP_walkExpr? error, countP_walkExprs arguments]
  | .unrecognized _ _ statements expressions => by
    simp only [Stmt.walk, Stmt.tally, List.countP_append, countP_walkExprs expressions, countP_walkStmts statements,
      Nat.add_comm]

theorem countP_walkExprs : (es : List Expr) → (walkExprs es).countP p = tallyExprs p es
  | [] => rfl
  | e :: es => by simp only [walkExprs, tallyExprs, List.countP_append, e.countP_walk, countP_walkExprs es]

theorem countP_walkStmts : (ss : List Stmt) → (walkStmts ss).countP p = tallyStmts p ss
  | [] => rfl
  | s :: ss => by simp only [walkStmts, tallyStmts, List.countP_append, s.countP_walk, countP_walkStmts ss]

theorem countP_walkExpr? : (e : Option Expr) → (walkExpr? e).countP p = tallyExpr? p e
  | none => rfl
  | some e => e.countP_walk

theorem countP_walkStmt? : (s : Option Stmt) → (walkStmt? s).countP p = tallyStmt? p s
  | none => rfl
  | some s => s.countP_walk

end

theorem Fragment.countP_walk (f : Fragment) : f.walk.countP p = f.tally p := by
  cases f with
  | sequence statements => exact countP_walkStmts statements
  | stmt s => exact s.countP_walk
  | expr e => exact e.countP_walk

/-! ## The occurrences of expressions -/

/-- The occurrences that are expressions. -/
def Fragment.visits (f : Fragment) : List Occurrence := f.occurrences.filter (·.target.expr?.isSome)

/-- The visit of a fragment itself, if it is an expression. -/
def Fragment.ownVisit (f : Fragment) : List Occurrence := f.expr?.toList.map fun e => ⟨[], .expr e⟩

/-- The visits of a part, seen from what it is a part of. -/
def partVisits (part : Step × Fragment) : List Occurrence := part.2.visits.map (Occurrence.under part.1)

theorem Fragment.visits_eq (f : Fragment) : f.visits = f.ownVisit ++ f.parts.flatMap partVisits := by
  have hparts : ∀ q : Step × Fragment, (q.2.occurrences.map (Occurrence.under q.1)).filter (·.target.expr?.isSome) =
      partVisits q := fun q => List.filter_map
  rw [visits, occurrences_eq, ← List.singleton_append, List.filter_append, List.filter_flatMap]
  simp only [hparts]
  cases f <;> rfl

theorem Fragment.map_target_visits (f : Fragment) : f.visits.map Occurrence.target = f.walk.map Fragment.expr := by
  rw [visits, walk_eq_occurrences]
  induction f.occurrences with
  | nil => rfl
  | cons o os ih =>
    obtain ⟨path, target⟩ := o
    cases target <;> simp_all [expr?]

theorem Fragment.mem_visits {f : Fragment} {o : Occurrence} :
    o ∈ f.visits ↔ Occurs f o.path o.target ∧ o.target.expr?.isSome = true := by
  rw [visits, List.mem_filter, mem_occurrences]

theorem Fragment.nodup_visits (f : Fragment) : (f.visits.map Occurrence.path).Nodup :=
  f.nodup_occurrences.sublist (List.filter_sublist.map _)

/-! ## Visits below an occurrence stand together -/

/-- The occurrence seen from further up, behind a path. -/
def Occurrence.behind (path : List Step) (o : Occurrence) : Occurrence := ⟨path ++ o.path, o.target⟩

/-- The second occurrence stands below the first. -/
def Occurrence.IsAbove (o q : Occurrence) : Prop := o.path <+: q.path ∧ o.path ≠ q.path

theorem Occurrence.map_behind_nil (os : List Occurrence) : os.map (behind []) = os := List.map_id os

theorem Occurrence.map_behind_cons (step : Step) (path : List Step) (os : List Occurrence) :
    os.map (behind (step :: path)) = (os.map (behind path)).map (under step) := by
  rw [List.map_map]
  rfl

theorem not_prefix_of_other_steps {step : Step} {parts : List (Step × Fragment)} (h : ∀ part ∈ parts, part.1 ≠ step)
    (path : List Step) : ∀ o ∈ parts.flatMap partVisits, ¬ (step :: path) <+: o.path := by
  intro o ho hbelow
  obtain ⟨part, hpart, ho⟩ := List.mem_flatMap.mp ho
  obtain ⟨q, -, rfl⟩ := List.mem_map.mp ho
  exact h part hpart (List.cons_prefix_cons.mp hbelow).1.symm

/-- **The visits below an occurrence are cut out of all visits,** and none of the others stands below it. -/
theorem Occurs.exists_visits_split {f g : Fragment} {path : List Step} (h : Occurs f path g) :
    ∃ front back, f.visits = front ++ g.visits.map (Occurrence.behind path) ++ back ∧
      ∀ o ∈ front ++ back, ¬ path <+: o.path := by
  induction h with
  | here f => exact ⟨[], [], by simp [Occurrence.map_behind_nil], by simp⟩
  | @deeper f part target step path hstep _ ih =>
    obtain ⟨front, back, hpart, hout⟩ := ih
    obtain ⟨before, after, hparts⟩ := List.append_of_mem (Fragment.mem_parts.mpr hstep)
    have hsteps := f.nodup_steps
    rw [hparts, List.map_append, List.map_cons, List.nodup_middle, List.nodup_cons, List.mem_append, not_or] at hsteps
    have hbefore : ∀ q ∈ before, q.1 ≠ step := fun q hq h => hsteps.1.1 (List.mem_map.mpr ⟨q, hq, h⟩)
    have hafter : ∀ q ∈ after, q.1 ≠ step := fun q hq h => hsteps.1.2 (List.mem_map.mpr ⟨q, hq, h⟩)
    refine ⟨f.ownVisit ++ before.flatMap partVisits ++ front.map (.under step),
      back.map (.under step) ++ after.flatMap partVisits, ?_, ?_⟩
    · rw [f.visits_eq, hparts, List.flatMap_append, List.flatMap_cons, partVisits, hpart, Occurrence.map_behind_cons]
      simp only [List.map_append, List.append_assoc]
    · intro o ho
      simp only [List.mem_append] at ho
      rcases ho with ((ho | ho) | ho) | ho | ho
      · -- the fragment itself stands behind no step
        obtain ⟨e, -, rfl⟩ := List.mem_map.mp ho
        simp
      · exact not_prefix_of_other_steps hbefore path o ho
      · obtain ⟨q, hq, rfl⟩ := List.mem_map.mp ho
        exact fun h => hout q (List.mem_append_left _ hq) (List.cons_prefix_cons.mp h).2
      · obtain ⟨q, hq, rfl⟩ := List.mem_map.mp ho
        exact fun h => hout q (List.mem_append_right _ hq) (List.cons_prefix_cons.mp h).2
      · exact not_prefix_of_other_steps hafter path o ho

theorem Fragment.visits_expr (e : Expr) :
    ∃ rest, (Fragment.expr e).visits = ⟨[], .expr e⟩ :: rest ∧ ∀ o ∈ rest, o.path ≠ [] := by
  refine ⟨_, Fragment.visits_eq (.expr e), ?_⟩
  intro o ho hpath
  obtain ⟨part, -, ho⟩ := List.mem_flatMap.mp ho
  obtain ⟨q, -, rfl⟩ := List.mem_map.mp ho
  cases hpath

/-! ## Visiting in order -/

/-- `Enumerates f places`: the list goes through the expressions of `f`, parents first and subtree by subtree. -/
structure Enumerates (f : Fragment) (places : List Occurrence) : Prop where
  /-- The expressions of `f` are listed, and nothing else. -/
  complete : ∀ o, o ∈ places ↔ Occurs f o.path o.target ∧ o.target.expr?.isSome = true
  /-- No expression is listed twice. -/
  once : (places.map Occurrence.path).Nodup
  /-- Directly behind an expression stand all that are below it, in the order in which it is traversed itself. -/
  nested : ∀ o ∈ places, ∃ front below back, places = front ++ o :: below ++ back ∧
    (∀ q ∈ places, q ∈ below ↔ o.IsAbove q) ∧ (o :: below).map Occurrence.target = o.target.walk.map Fragment.expr

theorem Fragment.enumerates_visits (f : Fragment) : Enumerates f f.visits where
  complete _ := mem_visits
  once := f.nodup_visits
  nested := by
    rintro ⟨path, target⟩ ho
    obtain ⟨hoccurs, hexpr⟩ := mem_visits.mp ho
    obtain ⟨e, he⟩ := Option.isSome_iff_exists.mp hexpr
    cases target with
    | expr x =>
      obtain ⟨front, back, hsplit, hout⟩ := hoccurs.exists_visits_split
      obtain ⟨rest, hrest, hdeeper⟩ := visits_expr x
      have hplaces : f.visits = front ++ ⟨path, .expr x⟩ :: rest.map (Occurrence.behind path) ++ back := by
        rw [hsplit, hrest]
        simp [Occurrence.behind]
      refine ⟨front, rest.map (Occurrence.behind path), back, hplaces, ?_, ?_⟩
      · intro q hq
        constructor
        · intro hbelow
          obtain ⟨r, hr, rfl⟩ := List.mem_map.mp hbelow
          exact ⟨List.prefix_append _ _, by simpa [Occurrence.behind] using hdeeper r hr⟩
        · rintro ⟨hprefixed, hne⟩
          rw [hplaces] at hq
          simp only [List.mem_append, List.mem_cons] at hq
          rcases hq with (hq | rfl | hq) | hq
          · exact absurd hprefixed (hout q (List.mem_append_left _ hq))
          · exact absurd rfl hne
          · exact hq
          · exact absurd hprefixed (hout q (List.mem_append_right _ hq))
      · have hown := (Fragment.expr x).map_target_visits
        rw [hrest] at hown
        rw [← hown]
        simp [Occurrence.behind, Function.comp_def]
    | _ => cases he

/-- `VisitsInOrder f visits`: the visits are the expressions of `f`, each once and in the order of `Enumerates`. -/
structure VisitsInOrder (f : Fragment) (visits : List Expr) : Prop where
  tally : ∀ p, visits.countP p = f.tally p
  length : visits.length = f.tally fun _ => true
  places : ∃ places, Enumerates f places ∧ places.map Occurrence.target = visits.map Fragment.expr

theorem Fragment.visitsInOrder_walk (f : Fragment) : VisitsInOrder f f.walk where
  tally _ := f.countP_walk
  length := by rw [← f.countP_walk, List.countP_true]
  places := ⟨f.visits, f.enumerates_visits, f.map_target_visits⟩

/-- **A traversal visits every expression exactly once, parents first and subtree by subtree,** whether it starts at an
expression, a statement or a block. The header of a loop is visited once, in the order in which it is written, and then
the body. -/
theorem walk_in_order :
    (∀ e : Expr, VisitsInOrder (.expr e) e.walk) ∧ (∀ s : Stmt, VisitsInOrder (.stmt s) s.walk) ∧
    (∀ b : Block, VisitsInOrder (.sequence b.statements) b.walk) ∧
    ∀ start test update body, (Stmt.forLoop start test update body).walk =
      start.toList.flatMap Stmt.walk ++ test.toList.flatMap Expr.walk ++ update.toList.flatMap Expr.walk ++ body.walk := by
  refine ⟨fun e => (Fragment.expr e).visitsInOrder_walk, fun s => (Fragment.stmt s).visitsInOrder_walk,
    fun b => (Fragment.sequence b.statements).visitsInOrder_walk, fun start test update body => ?_⟩
  rw [← walkStmt?_eq, ← walkExpr?_eq, ← walkExpr?_eq, Stmt.walk]

end ContractAudit.Solidity
