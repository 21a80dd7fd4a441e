import ContractAudit.Facts.Calls
import ContractAudit.Proofs.Solidity.Fragment

/-!
# Direct and deferred checks agree

A call is checked where it stands in a condition, in a returned value or in an argument of a guard; a call whose status
is bound is checked where a later statement tests the variable. The first is decided on the way down by the traversal
that collects the calls, the second by a search for conditions and guards. Here both are brought to one notion of place:

* `stmtVisits` is the traversal with every expression that it comes by and the guard at that moment; the collected calls
  are those of the visits (`stmtCalls_eq_visits`);
* `sees_stmtVisits` reduces a statement to the expressions of the statements below it, and `Bare.sees_true` and
  `Bare.sees_false` say which parts of an expression are visited with a guard;
* `testsHere_iff` finds the same places in one statement, hence `tests_iff_sees` in all of them.

`putStmt` writes a call in place of a variable; the call then is visited as the variable was (`sees_putStmt`).
-/

namespace ContractAudit.Facts

open Text (Position)
open Solidity

/-- An expression as the collection comes by it. -/
structure Visit where
  expr : Expr
  /-- Its value decides something. -/
  guarded : Bool
  /-- Its status is bound by a statement, and a later one tests it. -/
  settled : Bool

/-- What the visit adds to the collected calls. -/
def Visit.calls (v : Visit) : List CallSite := ownCall v.expr (v.guarded || v.settled)

/-- The visit, if its place is the given one with the status settled. -/
def Visit.settleAt (pos : Position) (v : Visit) : Visit := if v.expr.pos = pos then { v with settled := true } else v

/-- What later statements say about the visits in a statement. -/
def settleVisits (s : Stmt) (later : List Stmt) (visits : List Visit) : List Visit :=
  match boundStatus? s with
  | some (name, pos) => if later.any (tests · name) then visits.map (Visit.settleAt pos) else visits
  | none => visits

mutual

/-- The visits in an expression, in the order in which they are made. -/
def exprVisits (guarded : Bool) : Expr → List Visit
  | e@(.identifier ..) => [⟨e, guarded, false⟩]
  | e@(.literal ..) => [⟨e, guarded, false⟩]
  | e@(.member _ object _) => ⟨e, guarded, false⟩ :: exprVisits guarded object
  | e@(.call _ callee options arguments) =>
    ⟨e, guarded, false⟩ :: (exprVisits guarded callee ++ exprsVisits guarded options ++
      exprsVisits (guarded || isGuard e) arguments)
  | e@(.index _ base key) => ⟨e, guarded, false⟩ :: (exprVisits guarded base ++ exprVisits? guarded key)
  | e@(.binary _ left _ right) => ⟨e, guarded, false⟩ :: (exprVisits guarded left ++ exprVisits guarded right)
  | e@(.assignment _ left _ right) => ⟨e, guarded, false⟩ :: (exprVisits guarded left ++ exprVisits guarded right)
  | e@(.unary _ _ operand) => ⟨e, guarded, false⟩ :: exprVisits guarded operand
  | e@(.conditional _ test yes no) =>
    ⟨e, guarded, false⟩ :: (exprVisits guarded test ++ exprVisits guarded yes ++ exprVisits guarded no)
  | e@(.tuple _ items) => ⟨e, guarded, false⟩ :: exprsVisits guarded items
  | e@(.unrecognized _ _ statements expressions) =>
    ⟨e, guarded, false⟩ :: (blockVisits statements ++ exprsVisits guarded expressions)

def exprsVisits (guarded : Bool) : List Expr → List Visit
  | [] => []
  | e :: es => exprVisits guarded e ++ exprsVisits guarded es

def exprVisits? (guarded : Bool) : Option Expr → List Visit
  | none => []
  | some e => exprVisits guarded e

def stmtVisits : Stmt → List Visit
  | .branch test yes no => exprVisits true test ++ stmtVisits yes ++ stmtVisits? no
  | .whileLoop test body => exprVisits true test ++ stmtVisits body
  | .doLoop body test => exprVisits true test ++ stmtVisits body
  | .forLoop start test update body =>
    stmtVisits? start ++ exprVisits? false test ++ exprVisits? false update ++ stmtVisits body
  | .block _ body | .unchecked _ body => blockVisits body
  | .returns value => exprVisits? true value
  | .unrecognized _ _ statements expressions => blockVisits statements ++ exprsVisits false expressions
  | .expression value => exprVisits false value
  | .declaration _ _ value => exprVisits? false value
  | .emit _ event arguments => exprVisits false event ++ exprsVisits false arguments
  | .revert error arguments => exprVisits? false error ++ exprsVisits false arguments

def stmtVisits? : Option Stmt → List Visit
  | none => []
  | some s => stmtVisits s

def blockVisits : List Stmt → List Visit
  | [] => []
  | s :: later => settleVisits s later (stmtVisits s) ++ blockVisits later

end

theorem calls_settleAt (pos : Position) (v : Visit) : (v.settleAt pos).calls = markAt pos v.calls := by
  unfold Visit.settleAt
  cases hkind : lowLevel? v.expr with
  | none => split <;> simp [Visit.calls, ownCall, hkind, markAt]
  | some kind =>
    split
    · next hpos => simp [Visit.calls, ownCall, hkind, markAt, hpos]
    · next hpos => simp [Visit.calls, ownCall, hkind, markAt, hpos]

theorem flatMap_settleVisits (s : Stmt) (later : List Stmt) (visits : List Visit) :
    (settleVisits s later visits).flatMap Visit.calls = settle s later (visits.flatMap Visit.calls) := by
  unfold settleVisits settle
  cases boundStatus? s with
  | none => rfl
  | some found =>
    obtain ⟨name, pos⟩ := found
    dsimp only
    split
    · have hmark : markAt pos (visits.flatMap Visit.calls) = visits.flatMap fun v => markAt pos v.calls :=
        List.map_flatMap
      rw [List.flatMap_map, hmark]
      exact List.flatMap_congr fun v _ => calls_settleAt pos v
    · rfl

mutual

theorem exprCalls_eq_visits (guarded : Bool) (e : Expr) :
    exprCalls guarded e = (exprVisits guarded e).flatMap Visit.calls := by
  cases e with
  | call p callee options arguments =>
    rw [exprCalls, exprVisits, exprCalls_eq_visits guarded callee, exprsCalls_eq_visits guarded options,
      exprsCalls_eq_visits _ arguments]
    simp [Visit.calls]
  | _ =>
    -- no other expression is a call itself
    simp only [exprCalls, exprVisits, exprCalls_eq_visits guarded, exprsCalls_eq_visits guarded,
      exprCalls?_eq_visits guarded, blockCalls_eq_visits]
    simp [Visit.calls, ownCall, lowLevel?, Expr.calledMember?]

theorem exprsCalls_eq_visits (guarded : Bool) (es : List Expr) :
    exprsCalls guarded es = (exprsVisits guarded es).flatMap Visit.calls := by
  cases es with
  | nil => rfl
  | cons e es =>
    rw [exprsCalls, exprsVisits, exprCalls_eq_visits guarded e, exprsCalls_eq_visits guarded es, List.flatMap_append]

theorem exprCalls?_eq_visits (guarded : Bool) (e : Option Expr) :
    exprCalls? guarded e = (exprVisits? guarded e).flatMap Visit.calls := by
  cases e with
  | none => rfl
  | some e => exact exprCalls_eq_visits guarded e

/-- **The collected calls are those of the visits.** -/
theorem stmtCalls_eq_visits (s : Stmt) : stmtCalls s = (stmtVisits s).flatMap Visit.calls := by
  cases s <;>
    simp only [stmtCalls, stmtVisits, List.flatMap_append, exprCalls_eq_visits, exprsCalls_eq_visits,
      exprCalls?_eq_visits, stmtCalls_eq_visits, stmtCalls?_eq_visits, blockCalls_eq_visits]

theorem stmtCalls?_eq_visits (s : Option Stmt) : stmtCalls? s = (stmtVisits? s).flatMap Visit.calls := by
  cases s with
  | none => rfl
  | some s => exact stmtCalls_eq_visits s

theorem blockCalls_eq_visits (statements : List Stmt) :
    blockCalls statements = (blockVisits statements).flatMap Visit.calls := by
  cases statements with
  | nil => rfl
  | cons s later =>
    rw [blockCalls, blockVisits, stmtCalls_eq_visits s, blockCalls_eq_visits later, List.flatMap_append,
      flatMap_settleVisits]

end

/-! ## What is visited with a guard -/

/-- The expression is visited at a moment when its value decides something. -/
def Sees (visits : List Visit) (x : Expr) : Prop := ∃ v ∈ visits, v.expr = x ∧ v.guarded = true

variable {x : Expr}

@[simp] theorem sees_nil : ¬ Sees [] x := by simp [Sees]

@[simp] theorem sees_cons {v : Visit} {visits : List Visit} :
    Sees (v :: visits) x ↔ (v.expr = x ∧ v.guarded = true) ∨ Sees visits x := by
  simp only [Sees, List.mem_cons, or_and_right, exists_or, exists_eq_left]

@[simp] theorem sees_append {front back : List Visit} : Sees (front ++ back) x ↔ Sees front x ∨ Sees back x := by
  simp only [Sees, List.mem_append, or_and_right, exists_or]

theorem sees_flatMap {α : Type} {items : List α} {visits : α → List Visit} :
    Sees (items.flatMap visits) x ↔ ∃ a ∈ items, Sees (visits a) x := by
  simp only [Sees, List.mem_flatMap]
  exact ⟨fun ⟨v, ⟨a, ha, hv⟩, h⟩ => ⟨a, ha, v, hv, h⟩, fun ⟨a, ha, v, hv, h⟩ => ⟨v, ⟨a, ha, hv⟩, h⟩⟩

theorem sees_settleVisits {s : Stmt} {later : List Stmt} {visits : List Visit} :
    Sees (settleVisits s later visits) x ↔ Sees visits x := by
  have hmap : ∀ pos, Sees (visits.map (Visit.settleAt pos)) x ↔ Sees visits x := by
    intro pos
    induction visits with
    | nil => rfl
    | cons v visits ih =>
      rw [List.map_cons, sees_cons, sees_cons, ih, Visit.settleAt]
      split <;> rfl
  unfold settleVisits
  split
  · split
    · exact hmap _
    · rfl
  · rfl

theorem exprsVisits_eq (guarded : Bool) (es : List Expr) :
    exprsVisits guarded es = es.flatMap (exprVisits guarded) := by
  induction es with
  | nil => rfl
  | cons e es ih =>
    show exprVisits guarded e ++ exprsVisits guarded es = _
    rw [ih, List.flatMap_cons]

theorem exprVisits?_eq (guarded : Bool) (e : Option Expr) :
    exprVisits? guarded e = e.toList.flatMap (exprVisits guarded) := by
  cases e with
  | none => rfl
  | some e => exact (List.flatMap_singleton _ e).symm

theorem stmtVisits?_eq (s : Option Stmt) : stmtVisits? s = s.toList.flatMap stmtVisits := by
  cases s with
  | none => rfl
  | some s => exact (List.flatMap_singleton _ s).symm

@[simp] theorem blockVisits_nil : blockVisits [] = [] := rfl

theorem sees_blockVisits {statements : List Stmt} :
    Sees (blockVisits statements) x ↔ Sees (statements.flatMap stmtVisits) x := by
  induction statements with
  | nil => rfl
  | cons s later ih =>
    show Sees (settleVisits s later (stmtVisits s) ++ blockVisits later) x ↔ _
    rw [List.flatMap_cons, sees_append, sees_append, sees_settleVisits, ih]

theorem sees_stmtVisits_step {s : Stmt} : Sees (stmtVisits s) x ↔
    (∃ e ∈ s.expressions, Sees (exprVisits (decisive? s).isSome e) x) ∨ ∃ t ∈ s.statements, Sees (stmtVisits t) x := by
  rw [← sees_flatMap, ← sees_flatMap]
  cases s with
  | returns value => cases value <;> simp [stmtVisits, Stmt.expressions, Stmt.statements, decisive?, exprVisits?]
  | unrecognized p kind statements expressions =>
    rw [stmtVisits, sees_append, sees_blockVisits, exprsVisits_eq]
    exact or_comm
  | forLoop start test update body =>
    simp only [stmtVisits, Stmt.expressions, Stmt.statements, decisive?, exprVisits?_eq, stmtVisits?_eq, sees_append,
      List.flatMap_append, List.flatMap_singleton]
    tauto
  | _ =>
    simp [stmtVisits, Stmt.expressions, Stmt.statements, decisive?, exprsVisits_eq, exprVisits?_eq, stmtVisits?_eq,
      sees_blockVisits]

/-- **A statement is visited statement by statement.** -/
theorem sees_stmtVisits {s : Stmt} : Sees (stmtVisits s) x ↔
    ∃ t ∈ s.nested, ∃ e ∈ t.expressions, Sees (exprVisits (decisive? t).isSome e) x := by
  induction s using Stmt.induction with
  | step s ih =>
    rw [sees_stmtVisits_step, s.nested_eq]
    constructor
    · rintro (hhere | ⟨t, ht, hbelow⟩)
      · exact ⟨s, List.mem_cons_self, hhere⟩
      · obtain ⟨u, hu, hsees⟩ := (ih t ht).mp hbelow
        exact ⟨u, List.mem_cons_of_mem _ (List.mem_flatMap.mpr ⟨t, ht, hu⟩), hsees⟩
    · rintro ⟨u, hu, hsees⟩
      rcases List.mem_cons.mp hu with rfl | hu
      · exact .inl hsees
      · obtain ⟨t, ht, hu⟩ := List.mem_flatMap.mp hu
        exact .inr ⟨t, ht, (ih t ht).mpr ⟨u, hu, hsees⟩⟩

/-! ## Expressions -/

/-- The arguments of a call. -/
def argumentsOf : Expr → List Expr
  | .call _ _ _ arguments => arguments
  | _ => []

/-- What stands directly below an expression, arguments apart. -/
def restOf : Expr → List Expr
  | .call _ callee options _ => callee :: options
  | e => e.children

theorem mem_children {e c : Expr} : c ∈ e.children ↔ c ∈ restOf e ∨ c ∈ argumentsOf e := by
  cases e <;> simp [Expr.children, restOf, argumentsOf, or_assoc]

/-- No expression carries statements. -/
def Bare (es : List Expr) : Prop := ∀ e ∈ es, e.carried?.getD [] = []

theorem Bare.child {e c : Expr} (h : Bare e.walk) (hc : c ∈ e.children) : Bare c.walk :=
  fun x hx => h x (Expr.mem_walk_of_child hc hx)

theorem Bare.mem_walk {e : Expr} (h : Bare e.walk) : x ∈ e.walk ↔ x = e ∨ ∃ c ∈ e.children, x ∈ c.walk := by
  have hcarried : e.carried?.toList.flatMap walkStmts = [] := by
    have hnone := h e e.mem_walk_self
    cases hc : e.carried? with
    | none => rfl
    | some statements =>
      rw [hc, Option.getD_some] at hnone
      simp [hnone, walkStmts]
  rw [e.walk_eq, hcarried, List.nil_append, List.mem_cons, List.mem_flatMap]

theorem sees_exprVisits_step {guarded : Bool} {e : Expr} : Sees (exprVisits guarded e) x ↔
    (e = x ∧ guarded = true) ∨ Sees (blockVisits (e.carried?.getD [])) x ∨
      (∃ c ∈ restOf e, Sees (exprVisits guarded c) x) ∨
      ∃ a ∈ argumentsOf e, Sees (exprVisits (guarded || isGuard e) a) x := by
  rw [← sees_flatMap, ← sees_flatMap]
  cases e <;>
    simp [exprVisits, Expr.carried?, restOf, argumentsOf, Expr.children, exprsVisits_eq, exprVisits?_eq,
      or_assoc]

theorem Bare.sees_step {guarded : Bool} {e : Expr} (h : Bare e.walk) : Sees (exprVisits guarded e) x ↔
    (e = x ∧ guarded = true) ∨ (∃ c ∈ restOf e, Sees (exprVisits guarded c) x) ∨
      ∃ a ∈ argumentsOf e, Sees (exprVisits (guarded || isGuard e) a) x := by
  rw [sees_exprVisits_step, h e e.mem_walk_self, blockVisits_nil]
  simp only [sees_nil, false_or]

theorem Bare.sees_true {e : Expr} (h : Bare e.walk) : Sees (exprVisits true e) x ↔ x ∈ e.walk := by
  induction e using Expr.induction with
  | step e ih =>
    rw [h.sees_step, h.mem_walk]
    constructor
    · rintro (⟨rfl, -⟩ | ⟨c, hc, hsees⟩ | ⟨a, ha, hsees⟩)
      · exact .inl rfl
      · have hchild := mem_children.mpr (.inl hc)
        exact .inr ⟨c, hchild, (ih c hchild (h.child hchild)).mp hsees⟩
      · have hchild := mem_children.mpr (.inr ha)
        exact .inr ⟨a, hchild, (ih a hchild (h.child hchild)).mp hsees⟩
    · rintro (rfl | ⟨c, hchild, hx⟩)
      · exact .inl ⟨rfl, rfl⟩
      · have hsees := (ih c hchild (h.child hchild)).mpr hx
        rcases mem_children.mp hchild with hc | ha
        · exact .inr (.inl ⟨c, hc, hsees⟩)
        · exact .inr (.inr ⟨c, ha, hsees⟩)

theorem Bare.sees_false {e : Expr} (h : Bare e.walk) : Sees (exprVisits false e) x ↔
    ∃ c ∈ e.walk, isGuard c = true ∧ ∃ a ∈ argumentsOf c, x ∈ a.walk := by
  induction e using Expr.induction with
  | step e ih =>
    rw [h.sees_step]
    constructor
    · rintro (⟨-, hfalse⟩ | ⟨c, hc, hsees⟩ | ⟨a, ha, hsees⟩)
      · cases hfalse
      · have hchild := mem_children.mpr (.inl hc)
        obtain ⟨g, hg, hguard⟩ := (ih c hchild (h.child hchild)).mp hsees
        exact ⟨g, Expr.mem_walk_of_child hchild hg, hguard⟩
      · have hchild := mem_children.mpr (.inr ha)
        cases hguard : isGuard e with
        | true =>
          rw [hguard, Bool.or_true, (h.child hchild).sees_true] at hsees
          exact ⟨e, e.mem_walk_self, hguard, a, ha, hsees⟩
        | false =>
          rw [hguard, Bool.or_false] at hsees
          obtain ⟨g, hg, hinner⟩ := (ih a hchild (h.child hchild)).mp hsees
          exact ⟨g, Expr.mem_walk_of_child hchild hg, hinner⟩
    · rintro ⟨g, hg, hguard, a, ha, hx⟩
      rcases h.mem_walk.mp hg with rfl | ⟨c, hchild, hg⟩
      · refine .inr (.inr ⟨a, ha, ?_⟩)
        rw [hguard, Bool.or_true, (h.child (mem_children.mpr (.inr ha))).sees_true]
        exact hx
      · have hsees := (ih c hchild (h.child hchild)).mpr ⟨g, hg, hguard, a, ha, hx⟩
        rcases mem_children.mp hchild with hc | harg
        · exact .inr (.inl ⟨c, hc, hsees⟩)
        · refine .inr (.inr ⟨c, harg, ?_⟩)
          cases hself : isGuard e with
          | false => exact hsees
          | true =>
            -- an argument of a guard is visited with a guard throughout, also inside of another guard
            rw [Bool.or_true, (h.child hchild).sees_true]
            exact Expr.walk_subset hg (Expr.mem_walk_of_child (mem_children.mpr (.inr ha)) hx)

/-! ## Tests of a name -/

theorem guardMentions_iff {e : Expr} {name : String} : guardMentions e name = true ↔
    ∃ p, ∃ c ∈ e.walk, isGuard c = true ∧ ∃ a ∈ argumentsOf c, Expr.identifier p name ∈ a.walk := by
  rw [guardMentions, List.any_eq_true]
  constructor
  · rintro ⟨c, hc, hmentions⟩
    cases c with
    | call q callee options arguments =>
      obtain ⟨hguard, hany⟩ := Bool.and_eq_true_iff.mp hmentions
      obtain ⟨a, ha, hname⟩ := List.any_eq_true.mp hany
      obtain ⟨p, hp⟩ := mentions_iff.mp hname
      exact ⟨p, _, hc, hguard, a, ha, hp⟩
    | _ => cases hmentions
  · rintro ⟨p, c, hc, hguard, a, ha, hp⟩
    cases c with
    | call q callee options arguments =>
      have hany : arguments.any (·.mentions name) = true := List.any_eq_true.mpr ⟨a, ha, mentions_iff.mpr ⟨p, hp⟩⟩
      exact ⟨_, hc, Bool.and_eq_true_iff.mpr ⟨hguard, hany⟩⟩
    | _ => cases ha

theorem expressions_of_decisive? {s : Stmt} {e : Expr} (h : decisive? s = some e) : s.expressions = [e] := by
  cases s <;> simp_all [decisive?, Stmt.expressions]

theorem testsHere_iff {s : Stmt} {name : String} (h : ∀ e ∈ s.expressions, Bare e.walk) : testsHere s name = true ↔
    ∃ p, ∃ e ∈ s.expressions, Sees (exprVisits (decisive? s).isSome e) (.identifier p name) := by
  rw [testsHere, Bool.or_eq_true, List.any_eq_true]
  cases hd : decisive? s with
  | none =>
    simp only [Option.any_none, Bool.false_eq_true, false_or, Option.isSome_none, guardMentions_iff]
    constructor
    · rintro ⟨e, he, p, hguard⟩
      exact ⟨p, e, he, (h e he).sees_false.mpr hguard⟩
    · rintro ⟨p, e, he, hsees⟩
      exact ⟨e, he, p, (h e he).sees_false.mp hsees⟩
  | some e =>
    have hs := expressions_of_decisive? hd
    have he : Bare e.walk := h e (by rw [hs]; exact List.mem_singleton_self e)
    simp only [hs, List.mem_singleton, exists_eq_left, Option.any_some, Option.isSome_some, he.sees_true, mentions_iff,
      guardMentions_iff]
    constructor
    · rintro (hmention | ⟨p, c, hc, -, a, ha, hp⟩)
      · exact hmention
      · exact ⟨p, Expr.walk_subset hc (Expr.mem_walk_of_child (mem_children.mpr (.inr ha)) hp)⟩
    · exact .inl

theorem walk_subset_of_nested {s t : Stmt} {e : Expr} (ht : t ∈ s.nested) (he : e ∈ t.expressions) :
    e.walk ⊆ s.walk := by
  obtain ⟨path, hpath, -⟩ := (Fragment.mem_nested (f := .stmt s)).mp ht
  obtain ⟨i, hi⟩ := List.getElem?_of_mem he
  have hclause : Occurs (.stmt t) [.clause t i] (.expr e) := .deeper (.clause hi) (.here _)
  exact List.Subset.trans hclause.walk_subset hpath.walk_subset

theorem tests_iff_sees {s : Stmt} {name : String} (h : Bare s.walk) :
    tests s name = true ↔ ∃ p, Sees (stmtVisits s) (.identifier p name) := by
  have hbare : ∀ t ∈ s.nested, ∀ e ∈ t.expressions, Bare e.walk :=
    fun t ht e he x hx => h x (walk_subset_of_nested ht he hx)
  rw [tests, List.any_eq_true]
  simp only [sees_stmtVisits]
  constructor
  · rintro ⟨t, ht, htest⟩
    obtain ⟨p, hp⟩ := (testsHere_iff (hbare t ht)).mp htest
    exact ⟨p, t, ht, hp⟩
  · rintro ⟨p, t, ht, hp⟩
    exact ⟨t, ht, (testsHere_iff (hbare t ht)).mpr ⟨p, hp⟩⟩

/-! ## A call in place of a variable -/

mutual

/-- The expression with `x` in place of every identifier `name`. -/
def putExpr (name : String) (x : Expr) : Expr → Expr
  | .identifier p n => if n = name then x else .identifier p n
  | .literal p text => .literal p text
  | .member p object field => .member p (putExpr name x object) field
  | .call p callee options arguments =>
    .call p (putExpr name x callee) (putExprs name x options) (putExprs name x arguments)
  | .index p base key => .index p (putExpr name x base) (putExpr? name x key)
  | .binary p left operator right => .binary p (putExpr name x left) operator (putExpr name x right)
  | .assignment p left operator right => .assignment p (putExpr name x left) operator (putExpr name x right)
  | .unary p operator operand => .unary p operator (putExpr name x operand)
  | .conditional p test yes no => .conditional p (putExpr name x test) (putExpr name x yes) (putExpr name x no)
  | .tuple p items => .tuple p (putExprs name x items)
  | .unrecognized p kind statements expressions =>
    .unrecognized p kind (putStmts name x statements) (putExprs name x expressions)

def putExprs (name : String) (x : Expr) : List Expr → List Expr
  | [] => []
  | e :: es => putExpr name x e :: putExprs name x es

def putExpr? (name : String) (x : Expr) : Option Expr → Option Expr
  | none => none
  | some e => some (putExpr name x e)

/-- The statement with `x` in place of every identifier `name`. -/
def putStmt (name : String) (x : Expr) : Stmt → Stmt
  | .block p body => .block p (putStmts name x body)
  | .unchecked p body => .unchecked p (putStmts name x body)
  | .expression value => .expression (putExpr name x value)
  | .declaration p slots value => .declaration p slots (putExpr? name x value)
  | .branch test yes no => .branch (putExpr name x test) (putStmt name x yes) (putStmt? name x no)
  | .forLoop start test update body =>
    .forLoop (putStmt? name x start) (putExpr? name x test) (putExpr? name x update) (putStmt name x body)
  | .whileLoop test body => .whileLoop (putExpr name x test) (putStmt name x body)
  | .doLoop body test => .doLoop (putStmt name x body) (putExpr name x test)
  | .returns value => .returns (putExpr? name x value)
  | .emit p event arguments => .emit p (putExpr name x event) (putExprs name x arguments)
  | .revert error arguments => .revert (putExpr? name x error) (putExprs name x arguments)
  | .unrecognized p kind statements expressions =>
    .unrecognized p kind (putStmts name x statements) (putExprs name x expressions)

def putStmts (name : String) (x : Expr) : List Stmt → List Stmt
  | [] => []
  | s :: ss => putStmt name x s :: putStmts name x ss

def putStmt? (name : String) (x : Expr) : Option Stmt → Option Stmt
  | none => none
  | some s => some (putStmt name x s)

end

variable {name : String}

theorem putExpr_identifier (p : Position) (n : String) :
    putExpr name x (.identifier p n) = if n = name then x else .identifier p n := rfl

theorem putExprs_eq (es : List Expr) : putExprs name x es = es.map (putExpr name x) := by
  induction es with
  | nil => rfl
  | cons e es ih =>
    show putExpr name x e :: putExprs name x es = _
    rw [ih, List.map_cons]

theorem putExpr?_eq (e : Option Expr) : putExpr? name x e = e.map (putExpr name x) := by
  cases e <;> rfl

theorem putStmts_eq (ss : List Stmt) : putStmts name x ss = ss.map (putStmt name x) := by
  induction ss with
  | nil => rfl
  | cons s ss ih =>
    show putStmt name x s :: putStmts name x ss = _
    rw [ih, List.map_cons]

theorem putStmt?_eq (s : Option Stmt) : putStmt? name x s = s.map (putStmt name x) := by
  cases s <;> rfl

/-- A statement keeps its shape. -/
structure KeptStmt (name : String) (x : Expr) (s : Stmt) : Prop where
  expressions : (putStmt name x s).expressions = s.expressions.map (putExpr name x)
  statements : (putStmt name x s).statements = s.statements.map (putStmt name x)
  decisive : decisive? (putStmt name x s) = (decisive? s).map (putExpr name x)

theorem keptStmt (name : String) (x : Expr) (s : Stmt) : KeptStmt name x s := by
  cases s <;> constructor <;>
    simp [putStmt, Stmt.expressions, Stmt.statements, decisive?, putExprs_eq, putExpr?_eq, putStmts_eq, putStmt?_eq,
      Option.toList_map]

theorem nested_putStmt (s : Stmt) : (putStmt name x s).nested = s.nested.map (putStmt name x) := by
  induction s using Stmt.induction with
  | step s ih =>
    rw [Stmt.nested_eq, Stmt.nested_eq s, (keptStmt name x s).statements, List.map_cons, List.flatMap_map, List.map_flatMap]
    exact congrArg _ (List.flatMap_congr ih)

theorem isGuard_putExpr (hx : x.identifier? = none) (hrequire : name ≠ "require") (hassert : name ≠ "assert")
    (p : Position) (callee : Expr) (options arguments : List Expr) :
    isGuard (putExpr name x (.call p callee options arguments)) = isGuard (.call p callee options arguments) := by
  show isGuard (.call p (putExpr name x callee) (putExprs name x options) (putExprs name x arguments)) = _
  rw [isGuard, isGuard, Expr.calledName?, Expr.calledName?]
  cases callee with
  | identifier q n =>
    by_cases hn : n = name
    · rw [putExpr_identifier, if_pos hn, hx, Expr.identifier?, hn]
      simp [hrequire, hassert]
    · rw [putExpr_identifier, if_neg hn]
  | _ => rfl

/-- An expression that is not replaced keeps its shape. -/
structure Kept (name : String) (x e : Expr) : Prop where
  pos : (putExpr name x e).pos = e.pos
  rest : restOf (putExpr name x e) = (restOf e).map (putExpr name x)
  arguments : argumentsOf (putExpr name x e) = (argumentsOf e).map (putExpr name x)
  carried : (putExpr name x e).carried?.getD [] = (e.carried?.getD []).map (putStmt name x)
  guard : isGuard (putExpr name x e) = isGuard e

theorem kept (hx : x.identifier? = none) (hrequire : name ≠ "require") (hassert : name ≠ "assert") {e : Expr}
    (he : e.identifier? ≠ some name) : Kept name x e := by
  cases e with
  | identifier p n =>
    have hn : n ≠ name := by simpa [Expr.identifier?] using he
    have hput : putExpr name x (.identifier p n) = .identifier p n := by rw [putExpr_identifier, if_neg hn]
    constructor <;> rw [hput] <;> rfl
  | call p callee options arguments =>
    refine ⟨rfl, ?_, ?_, rfl, isGuard_putExpr hx hrequire hassert p callee options arguments⟩
    · simp [putExpr, restOf, putExprs_eq]
    · simp [putExpr, argumentsOf, putExprs_eq]
  | _ =>
    constructor <;>
      simp [putExpr, Expr.pos, restOf, argumentsOf, Expr.carried?, Expr.children, isGuard, Expr.calledName?,
        putExprs_eq, putExpr?_eq, putStmts_eq, Option.toList_map]

theorem Bare.sees_self (hx : Bare x.walk) (guarded : Bool) : Sees (exprVisits guarded x) x ↔ guarded = true := by
  cases guarded with
  | true => simp [hx.sees_true, x.mem_walk_self]
  | false =>
    rw [hx.sees_false]
    constructor
    · rintro ⟨c, hc, -, a, ha, hself⟩
      have hle := Expr.sizeOf_le_of_mem_walk hself
      have hlt := Expr.sizeOf_child_lt (mem_children.mpr (.inr ha))
      have hle' := Expr.sizeOf_le_of_mem_walk hc
      omega
    · intro hfalse
      cases hfalse

/-- **What is put in place of a name is visited as the name was.** -/
theorem sees_putExpr (hx : x.identifier? = none) (hself : Bare x.walk) (hrequire : name ≠ "require")
    (hassert : name ≠ "assert") {guarded : Bool} {e : Expr} (h : Bare e.walk) (hfresh : ∀ c ∈ e.walk, c.pos ≠ x.pos) :
    Sees (exprVisits guarded (putExpr name x e)) x ↔ ∃ p, Sees (exprVisits guarded e) (.identifier p name) := by
  induction e using Expr.induction generalizing guarded with
  | step e ih =>
    by_cases he : e.identifier? = some name
    · obtain ⟨p, rfl⟩ := exists_of_identifier? he
      rw [putExpr_identifier, if_pos rfl, hself.sees_self]
      simp [exprVisits]
    · have hkept := kept hx hrequire hassert he
      have hbelow : ∀ c ∈ e.children, ∀ g, Sees (exprVisits g (putExpr name x c)) x ↔
          ∃ p, Sees (exprVisits g c) (.identifier p name) := fun c hc g =>
        ih c hc (h.child hc) fun y hy => hfresh y (Expr.mem_walk_of_child hc hy)
      have hne : putExpr name x e ≠ x := fun heq => hfresh e e.mem_walk_self (by rw [← hkept.pos, heq])
      have hne' : ∀ p, e ≠ .identifier p name := fun p heq => he (by rw [heq]; rfl)
      rw [sees_exprVisits_step, hkept.carried, hkept.rest, hkept.arguments, hkept.guard, h e e.mem_walk_self]
      simp only [h.sees_step, hne, hne', false_and, false_or, List.map_nil, blockVisits_nil, sees_nil]
      constructor
      · rintro (⟨_, hmem, hsees⟩ | ⟨_, hmem, hsees⟩)
        · obtain ⟨c, hc, rfl⟩ := List.mem_map.mp hmem
          obtain ⟨p, hp⟩ := (hbelow c (mem_children.mpr (.inl hc)) _).mp hsees
          exact ⟨p, .inl ⟨c, hc, hp⟩⟩
        · obtain ⟨a, ha, rfl⟩ := List.mem_map.mp hmem
          obtain ⟨p, hp⟩ := (hbelow a (mem_children.mpr (.inr ha)) _).mp hsees
          exact ⟨p, .inr ⟨a, ha, hp⟩⟩
      · rintro ⟨p, ⟨c, hc, hp⟩ | ⟨a, ha, hp⟩⟩
        · exact .inl ⟨_, List.mem_map_of_mem hc, (hbelow c (mem_children.mpr (.inl hc)) _).mpr ⟨p, hp⟩⟩
        · exact .inr ⟨_, List.mem_map_of_mem ha, (hbelow a (mem_children.mpr (.inr ha)) _).mpr ⟨p, hp⟩⟩

theorem sees_putStmt (hx : x.identifier? = none) (hself : Bare x.walk) (hrequire : name ≠ "require")
    (hassert : name ≠ "assert") {s : Stmt} (h : Bare s.walk) (hfresh : ∀ e ∈ s.walk, e.pos ≠ x.pos) :
    Sees (stmtVisits (putStmt name x s)) x ↔ ∃ p, Sees (stmtVisits s) (.identifier p name) := by
  have hplace : ∀ t ∈ s.nested, ∀ e ∈ t.expressions, ∀ g, Sees (exprVisits g (putExpr name x e)) x ↔
      ∃ p, Sees (exprVisits g e) (.identifier p name) := fun t ht e he g =>
    sees_putExpr hx hself hrequire hassert (fun y hy => h y (walk_subset_of_nested ht he hy))
      fun y hy => hfresh y (walk_subset_of_nested ht he hy)
  simp only [sees_stmtVisits, nested_putStmt]
  constructor
  · rintro ⟨_, hstmt, _, hexpr, hsees⟩
    obtain ⟨t, ht, rfl⟩ := List.mem_map.mp hstmt
    rw [(keptStmt name x t).expressions] at hexpr
    obtain ⟨e, he, rfl⟩ := List.mem_map.mp hexpr
    rw [(keptStmt name x t).decisive, Option.isSome_map, hplace t ht e he] at hsees
    obtain ⟨p, hp⟩ := hsees
    exact ⟨p, t, ht, e, he, hp⟩
  · rintro ⟨p, t, ht, e, he, hp⟩
    refine ⟨_, List.mem_map_of_mem ht, putExpr name x e, ?_, ?_⟩
    · rw [(keptStmt name x t).expressions]
      exact List.mem_map_of_mem he
    · rw [(keptStmt name x t).decisive, Option.isSome_map, hplace t ht e he]
      exact ⟨p, hp⟩

/-! ## Both notions of a test -/

/-- **The direct and the deferred check agree on what a test is.** In a statement whose expressions carry no statements,
a name is tested exactly if the collection visits it with a guard, and exactly if it visits with a guard a call that
stands in place of the name; and a call is recorded as checked if it is visited with a guard or settled later. -/
theorem deferred_check_agrees (s : Stmt) (hs : ∀ e ∈ s.walk, e.carried?.getD [] = []) :
    (∀ name, tests s name = true ↔ ∃ v ∈ stmtVisits s, v.expr.identifier? = some name ∧ v.guarded = true) ∧
    (∀ name call, name ≠ "require" → name ≠ "assert" → (lowLevel? call).isSome →
      (∀ e ∈ call.walk, e.carried?.getD [] = []) → (∀ e ∈ s.walk, e.pos ≠ call.pos) →
      (tests s name = true ↔ ∃ v ∈ stmtVisits (putStmt name call s), v.expr = call ∧ v.guarded = true)) ∧
    ∀ t, stmtCalls t = (stmtVisits t).flatMap fun v => ownCall v.expr (v.guarded || v.settled) := by
  refine ⟨fun name => ?_, fun name call hrequire hassert hcall hbare hfresh => ?_, stmtCalls_eq_visits⟩
  · rw [tests_iff_sees hs]
    constructor
    · rintro ⟨p, v, hv, hexpr, hguarded⟩
      exact ⟨v, hv, by rw [hexpr, Expr.identifier?], hguarded⟩
    · rintro ⟨v, hv, hname, hguarded⟩
      obtain ⟨p, hp⟩ := exists_of_identifier? hname
      exact ⟨p, v, hv, hp, hguarded⟩
  · have hidentifier : call.identifier? = none := by
      cases call with
      | call => rfl
      | _ => cases hcall
    rw [tests_iff_sees hs, ← sees_putStmt hidentifier hbare hrequire hassert hs hfresh]
    rfl

/-- The loop `for (; i < n; ) { bool done = ok; require(f(!ok), "failed"); }`. -/
def guardedLoop : Stmt :=
  .forLoop none (some (.binary ⟨1, 7⟩ (.identifier ⟨1, 7⟩ "i") "<" (.identifier ⟨1, 11⟩ "n"))) none
    (.block ⟨1, 16⟩ [
      .declaration ⟨1, 18⟩ [⟨some "done", some (.elementary "bool"), none⟩] (some (.identifier ⟨1, 30⟩ "ok")),
      .expression (.call ⟨1, 34⟩ (.identifier ⟨1, 34⟩ "require") []
        [.call ⟨1, 42⟩ (.identifier ⟨1, 42⟩ "f") [] [.unary ⟨1, 44⟩ "!" (.identifier ⟨1, 45⟩ "ok")],
          .literal ⟨1, 50⟩ "\"failed\""])])

/-- The call `to.send(1)` on another line. -/
def paymentAttempt : Expr := .call ⟨9, 0⟩ (.member ⟨9, 0⟩ (.identifier ⟨9, 0⟩ "to") "send") [] [.literal ⟨9, 8⟩ "1"]

/-- The argument of the guard is a test, while the value that is bound and the header of the loop are none. -/
theorem deferred_check_agrees_loop : (∀ e ∈ guardedLoop.walk, e.carried?.getD [] = []) ∧
    (∃ v ∈ stmtVisits guardedLoop, v.expr.identifier? = some "ok" ∧ v.guarded = true) ∧
    (¬ ∃ v ∈ stmtVisits guardedLoop, v.expr.identifier? = some "i" ∧ v.guarded = true) ∧
    (∃ v ∈ stmtVisits (putStmt "ok" paymentAttempt guardedLoop), v.expr = paymentAttempt ∧ v.guarded = true) ∧
    ¬ ∃ v ∈ stmtVisits (putStmt "i" paymentAttempt guardedLoop), v.expr = paymentAttempt ∧ v.guarded = true := by
  have hs : ∀ e ∈ guardedLoop.walk, e.carried?.getD [] = [] := by
    simp [guardedLoop, Stmt.walk, Expr.walk, walkStmts, walkExprs, walkExpr?, walkStmt?, Expr.carried?]
  have hcall : ∀ e ∈ paymentAttempt.walk, e.carried?.getD [] = [] := by
    simp [paymentAttempt, Expr.walk, walkExprs, Expr.carried?]
  have hfresh : ∀ e ∈ guardedLoop.walk, e.pos ≠ paymentAttempt.pos := by
    simp [guardedLoop, paymentAttempt, Stmt.walk, Expr.walk, walkStmts, walkExprs, walkExpr?, walkStmt?, Expr.pos]
  obtain ⟨hvisits, hput, -⟩ := deferred_check_agrees guardedLoop hs
  have hok : tests guardedLoop "ok" = true := by decide
  have hi : tests guardedLoop "i" ≠ true := by decide
  refine ⟨hs, (hvisits "ok").mp hok, fun h => hi ((hvisits "i").mpr h), ?_, fun h => hi ?_⟩
  · exact (hput "ok" paymentAttempt (by decide) (by decide) (by decide) hcall hfresh).mp hok
  · exact (hput "i" paymentAttempt (by decide) (by decide) (by decide) hcall hfresh).mpr h

end ContractAudit.Facts
