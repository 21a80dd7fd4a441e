import ContractAudit.Facts.Calls
import ContractAudit.Proofs.Solidity.Fragment

/-!
# Collected calls are the call occurrences

The calls of a body are collected by one traversal that threads a guard through conditions and arguments and settles
the calls of each statement by the statements behind it. Here every collected call is matched with an occurrence of a
low-level call, and its flag is read off the path to it (`fragmentCalls_perm`):

* `Guarded`: the path goes through a condition, a returned value or an argument of a guard, and from there on not into
  the statements that an expression carries;
* `TestedLater`: the path goes through a statement that binds the status of the call, and a later statement of the same
  sequence tests it.

One step of the traversal is `fragmentCalls_step`; the rest is induction on fragments. The order in which calls are
collected is not that of `walk`, so both lists are compared up to permutation.
-/

namespace ContractAudit.Facts

open Text (Position)
open Solidity

/-! ## When a path says that a call is checked -/

/-- Does the step lead to a value that decides something: a condition, a returned value, or an argument of `require` or
`assert`? The operands of a call are its callee, its options and its arguments, in this order. -/
def decides : Step → Bool
  | .clause (.branch ..) _ | .clause (.whileLoop ..) _ | .clause (.doLoop ..) _ | .clause (.returns _) _ => true
  | .operand (.call _ (.identifier _ name) options _) i => (name == "require" || name == "assert") && options.length < i
  | _ => false

/-- A step of the path decides something, and no carried statements lie between it and the end. -/
def Guarded (path : List Step) : Prop :=
  ∃ above step below, path = above ++ step :: below ∧ decides step = true ∧ Step.carried ∉ below

/-- A statement on the path binds the status of the call at `pos`, and a later statement of its sequence tests it. -/
def TestedLater (path : List Step) (pos : Position) : Prop :=
  ∃ statements i s flag, Step.item statements i ∈ path ∧ statements[i]? = some s ∧ boundStatus? s = some (flag, pos) ∧
    ∃ j t, i < j ∧ statements[j]? = some t ∧ tests t flag = true

/-- What the flag of a call at the end of the path means. -/
def Checked (path : List Step) (pos : Position) : Prop := Guarded path ∨ TestedLater path pos

theorem guarded_nil : ¬ Guarded [] := by
  rintro ⟨above, step, below, h, -⟩
  simp at h

theorem guarded_cons {step : Step} {path : List Step} :
    Guarded (step :: path) ↔ (decides step = true ∧ Step.carried ∉ path) ∨ Guarded path := by
  constructor
  · rintro ⟨above, found, below, h, hd, hc⟩
    cases above with
    | nil =>
      obtain ⟨rfl, rfl⟩ := List.cons.inj h
      exact .inl ⟨hd, hc⟩
    | cons first above =>
      obtain ⟨-, rfl⟩ := List.cons.inj h
      exact .inr ⟨above, found, below, rfl, hd, hc⟩
  · rintro (⟨hd, hc⟩ | ⟨above, found, below, rfl, hd, hc⟩)
    · exact ⟨[], step, path, rfl, hd, hc⟩
    · exact ⟨step :: above, found, below, rfl, hd, hc⟩

/-! ## The same, computed along a path -/

/-- The guard behind a step. -/
def passGuard (guarded : Bool) : Step → Bool
  | .carried => false
  | step => guarded || decides step

def guardedAlong (guarded : Bool) (path : List Step) : Bool := path.foldl passGuard guarded

/-- Does the step pick a statement that binds the status of the call at `pos`, with a test of it behind? -/
def settlesAt (pos : Position) : Step → Bool
  | .item statements i =>
    match statements[i]?.bind boundStatus? with
    | some (flag, bound) => decide (bound = pos) && (statements.drop (i + 1)).any (tests · flag)
    | none => false
  | _ => false

theorem passGuard_eq_true {guarded : Bool} {step : Step} :
    passGuard guarded step = true ↔ (guarded = true ∧ step ≠ .carried) ∨ decides step = true := by
  cases step <;> simp [passGuard, decides]

theorem guardedAlong_iff {guarded : Bool} {path : List Step} :
    guardedAlong guarded path = true ↔ (guarded = true ∧ Step.carried ∉ path) ∨ Guarded path := by
  induction path generalizing guarded with
  | nil => simp [guardedAlong, guarded_nil]
  | cons step path ih =>
    have hstep : guardedAlong guarded (step :: path) = guardedAlong (passGuard guarded step) path := rfl
    rw [hstep, ih, passGuard_eq_true, guarded_cons, List.mem_cons, not_or]
    have hne : step ≠ .carried ↔ Step.carried ≠ step := ne_comm
    tauto

theorem exists_later_iff {statements : List Stmt} {i : Nat} {flag : String} :
    (∃ j t, i < j ∧ statements[j]? = some t ∧ tests t flag = true) ↔
      (statements.drop (i + 1)).any (tests · flag) = true := by
  simp only [List.any_eq_true, List.mem_iff_getElem?, List.getElem?_drop]
  constructor
  · rintro ⟨j, t, hij, ht, htest⟩
    exact ⟨t, ⟨j - (i + 1), by rw [← ht]; congr 1; omega⟩, htest⟩
  · rintro ⟨t, ⟨k, ht⟩, htest⟩
    exact ⟨i + 1 + k, t, by omega, ht, htest⟩

theorem settlesAt_item {statements : List Stmt} {i : Nat} {pos : Position} :
    settlesAt pos (.item statements i) = true ↔ ∃ s flag, statements[i]? = some s ∧
      boundStatus? s = some (flag, pos) ∧ ∃ j t, i < j ∧ statements[j]? = some t ∧ tests t flag = true := by
  simp only [exists_later_iff, settlesAt]
  cases hbound : statements[i]?.bind boundStatus? with
  | none =>
    simp only [Option.bind_eq_none_iff] at hbound
    grind
  | some found =>
    obtain ⟨s, hs, hflag⟩ := Option.bind_eq_some_iff.mp hbound
    grind

theorem any_settlesAt_iff {path : List Step} {pos : Position} :
    path.any (settlesAt pos) = true ↔ TestedLater path pos := by
  rw [List.any_eq_true]
  constructor
  · rintro ⟨step, hmem, hsettles⟩
    cases step with
    | item statements i =>
      obtain ⟨s, flag, hs, hbound, hlater⟩ := settlesAt_item.mp hsettles
      exact ⟨statements, i, s, flag, hmem, hs, hbound, hlater⟩
    | _ => simp [settlesAt] at hsettles
  · rintro ⟨statements, i, s, flag, hmem, hs, hbound, hlater⟩
    exact ⟨_, hmem, settlesAt_item.mpr ⟨s, flag, hs, hbound, hlater⟩⟩

theorem checked_iff {path : List Step} {pos : Position} :
    (guardedAlong false path || path.any (settlesAt pos)) = true ↔ Checked path pos := by
  rw [Bool.or_eq_true, guardedAlong_iff, any_settlesAt_iff, Checked]
  simp

instance (path : List Step) (pos : Position) : Decidable (Checked path pos) := decidable_of_iff _ checked_iff

/-! ## One step of the collection -/

/-- The calls collected from a fragment. The guard matters for expressions only. -/
def fragmentCalls (guarded : Bool) : Fragment → List CallSite
  | .sequence statements => blockCalls statements
  | .stmt s => stmtCalls s
  | .expr e => exprCalls guarded e

/-- What the statements behind a step say about a call below it. -/
def settleUnder (step : Step) (c : CallSite) : CallSite := { c with checked := c.checked || settlesAt c.pos step }

/-- The calls of a part: collected under the guard that passes the step to it, settled by what stands behind the step. -/
def partCalls (guarded : Bool) (p : Step × Fragment) : List CallSite :=
  (fragmentCalls (passGuard guarded p.1) p.2).map (settleUnder p.1)

/-- The call that an occurrence is, for a traversal that starts with the given guard. -/
def siteAt (guarded : Bool) (o : Occurrence) : Option CallSite :=
  o.target.expr?.bind fun e => (lowLevel? e).map fun kind =>
    ⟨kind, e.pos, guardedAlong guarded o.path || o.path.any (settlesAt e.pos)⟩

theorem siteAt_under (guarded : Bool) (step : Step) (o : Occurrence) :
    siteAt guarded (o.under step) = (siteAt (passGuard guarded step) o).map (settleUnder step) := by
  obtain ⟨path, target⟩ := o
  cases target with
  | expr e =>
    cases hkind : lowLevel? e with
    | none => simp [siteAt, Occurrence.under, Fragment.expr?, hkind]
    | some kind =>
      simp only [siteAt, Occurrence.under, Fragment.expr?, hkind, Option.bind_some, Option.map_some, settleUnder,
        guardedAlong, List.foldl_cons, List.any_cons]
      rw [Bool.or_comm (settlesAt e.pos step), Bool.or_assoc]
  | _ => rfl

theorem siteAt_expr (guarded : Bool) (e : Expr) : (siteAt guarded ⟨[], .expr e⟩).toList = ownCall e guarded := by
  cases hkind : lowLevel? e <;> simp [siteAt, Fragment.expr?, ownCall, guardedAlong, hkind]

theorem map_settleUnder {step : Step} (h : ∀ pos, settlesAt pos step = false) (calls : List CallSite) :
    calls.map (settleUnder step) = calls := by
  have hid : settleUnder step = id := funext fun c => by simp [settleUnder, h]
  rw [hid, List.map_id]

theorem partCalls_eq (guarded : Bool) {step : Step} (h : ∀ pos, settlesAt pos step = false) (f : Fragment) :
    partCalls guarded (step, f) = fragmentCalls (passGuard guarded step) f :=
  map_settleUnder h _

theorem settle_eq_map {statements : List Stmt} {i : Nat} {s : Stmt} (h : statements[i]? = some s)
    (calls : List CallSite) :
    settle s (statements.drop (i + 1)) calls = calls.map (settleUnder (.item statements i)) := by
  have hunder : ∀ pos, settlesAt pos (.item statements i) =
      match boundStatus? s with
      | some (flag, bound) => decide (bound = pos) && (statements.drop (i + 1)).any (tests · flag)
      | none => false := fun pos => by simp [settlesAt, h]
  unfold settle
  cases hbound : boundStatus? s with
  | none =>
    refine (map_settleUnder (fun pos => ?_) calls).symm
    rw [hunder, hbound]
  | some found =>
    obtain ⟨flag, bound⟩ := found
    simp only [hbound] at hunder
    dsimp only
    by_cases hlater : (statements.drop (i + 1)).any (tests · flag) = true
    · simp only [hlater, Bool.and_true, if_true] at hunder ⊢
      refine List.map_congr_left fun c _ => ?_
      by_cases hpos : c.pos = bound
      · simp [settleUnder, hunder, hpos]
      · simp [settleUnder, hunder, hpos, Ne.symm hpos]
    · rw [if_neg hlater]
      refine (map_settleUnder (fun pos => ?_) calls).symm
      rw [hunder, eq_false_of_ne_true hlater, Bool.and_false]

theorem blockCalls_eq (statements : List Stmt) : blockCalls statements =
    (numbered (.item statements) .stmt statements).flatMap (partCalls false) := by
  -- the induction runs over a suffix, while the steps name the whole sequence
  suffices h : ∀ (before later : List Stmt), before ++ later = statements → blockCalls later =
      (numbered (fun i => .item statements (before.length + i)) .stmt later).flatMap (partCalls false) by
    simpa using h [] statements rfl
  intro before later
  induction later generalizing before with
  | nil => intro _; rfl
  | cons s later ih =>
    intro hsplit
    have hget : statements[before.length]? = some s := by simp [← hsplit]
    have hdrop : statements.drop (before.length + 1) = later := by simp [← hsplit]
    have htail := ih (before ++ [s]) (by simpa using hsplit)
    simp only [List.length_append, List.length_cons, List.length_nil, Nat.zero_add, Nat.add_assoc,
      Nat.add_comm 1] at htail
    rw [blockCalls, htail, ← hdrop, settle_eq_map hget]
    simp [numbered, partCalls, fragmentCalls, hdrop]

theorem exprsCalls_eq (guarded : Bool) (es : List Expr) : exprsCalls guarded es = es.flatMap (exprCalls guarded) := by
  induction es with
  | nil => rfl
  | cons e es ih => rw [exprsCalls, ih, List.flatMap_cons]

theorem exprCalls?_eq (guarded : Bool) (e : Option Expr) :
    exprCalls? guarded e = e.toList.flatMap (exprCalls guarded) := by
  cases e <;> simp [exprCalls?]

theorem stmtCalls?_eq (s : Option Stmt) : stmtCalls? s = s.toList.flatMap stmtCalls := by
  cases s <;> simp [stmtCalls?]

/-! ### Expressions -/

theorem decides_operand_call (p : Position) (callee : Expr) (options arguments : List Expr) (i : Nat) :
    decides (.operand (.call p callee options arguments) i) =
      (isGuard (.call p callee options arguments) && decide (options.length < i)) := by
  cases callee <;> simp [decides, isGuard, Expr.calledName?, Expr.identifier?]

/-- The operands of a call: the arguments of a guard are guarded, its callee and its options are not. -/
theorem partCalls_operands_call (guarded : Bool) (p : Position) (callee : Expr) (options arguments : List Expr) :
    (Expr.call p callee options arguments).operands.flatMap (partCalls guarded) =
      exprCalls guarded callee ++ exprsCalls guarded options ++
        exprsCalls (guarded || isGuard (.call p callee options arguments)) arguments := by
  set e := Expr.call p callee options arguments with he
  have hpart : ∀ i x, partCalls guarded (.operand e i, .expr x) =
      exprCalls (guarded || (isGuard e && decide (options.length < i))) x := by
    intro i x
    rw [partCalls_eq guarded fun _ => rfl, fragmentCalls, passGuard, he, decides_operand_call]
    simp
  have hsplit : e.operands = numbered (.operand e) .expr [callee] ++
      numbered (fun i => .operand e (i + 1)) .expr options ++
      numbered (fun i => .operand e (i + (options.length + 1))) .expr arguments := by
    have hchildren : e.children = ([callee] ++ options) ++ arguments := rfl
    rw [Expr.operands, hchildren, numbered_append, numbered_append]
    simp
  have hcallee : (numbered (.operand e) .expr [callee]).flatMap (partCalls guarded) = exprCalls guarded callee := by
    simp [numbered, hpart]
  have hoptions : (numbered (fun i => .operand e (i + 1)) .expr options).flatMap (partCalls guarded) =
      options.flatMap (exprCalls guarded) := by
    refine flatMap_numbered _ _ _ _ _ fun i x hx => ?_
    obtain ⟨hi, -⟩ := List.getElem?_eq_some_iff.mp hx
    have hle : ¬ options.length < i + 1 := by omega
    simp [hpart, hle]
  have harguments : (numbered (fun i => .operand e (i + (options.length + 1))) .expr arguments).flatMap
      (partCalls guarded) = arguments.flatMap (exprCalls (guarded || isGuard e)) := by
    refine flatMap_numbered _ _ _ _ _ fun i x _ => ?_
    have hlt : options.length < i + (options.length + 1) := by omega
    simp [hpart, hlt]
  rw [hsplit, List.flatMap_append, List.flatMap_append, hcallee, hoptions, harguments, exprsCalls_eq, exprsCalls_eq]

theorem partCalls_operands_of_not_call (guarded : Bool) (e : Expr)
    (h : ∀ p callee options arguments, e ≠ .call p callee options arguments) :
    e.operands.flatMap (partCalls guarded) = e.children.flatMap (exprCalls guarded) := by
  refine flatMap_numbered _ _ _ _ _ fun i x _ => ?_
  have hd : decides (.operand e i) = false := by
    cases e with
    | call p callee options arguments => exact absurd rfl (h p callee options arguments)
    | _ => rfl
  rw [partCalls_eq guarded fun _ => rfl, fragmentCalls, passGuard, hd, Bool.or_false]
  simp

theorem exprCalls_step (guarded : Bool) (e : Expr) : exprCalls guarded e =
    ownCall e guarded ++ e.carried?.toList.flatMap blockCalls ++ e.operands.flatMap (partCalls guarded) := by
  cases e with
  | call p callee options arguments =>
    rw [partCalls_operands_call, exprCalls]
    simp [Expr.carried?]
  | _ =>
    rw [partCalls_operands_of_not_call _ _ (by simp)]
    simp [exprCalls, ownCall, lowLevel?, Expr.calledMember?, Expr.carried?, Expr.children, exprsCalls_eq, exprCalls?_eq]

/-! ### Statements -/

theorem partCalls_clauses (s : Stmt) :
    s.clauses.flatMap (partCalls false) = s.expressions.flatMap (exprCalls (decides (.clause s 0))) := by
  refine flatMap_numbered _ _ _ _ _ fun i e _ => ?_
  have hd : decides (.clause s i) = decides (.clause s 0) := by cases s <;> rfl
  rw [partCalls_eq false fun _ => rfl, fragmentCalls, passGuard, hd, Bool.false_or]
  simp

theorem partCalls_bodies (s : Stmt) : s.bodies.flatMap (partCalls false) =
    match s.braced? with
    | some statements => blockCalls statements
    | none => s.statements.flatMap stmtCalls := by
  unfold Stmt.bodies
  cases s.braced? with
  | some statements =>
    dsimp only
    rw [List.flatMap_singleton, partCalls_eq false fun _ => rfl, fragmentCalls]
  | none =>
    refine flatMap_numbered _ _ _ _ _ fun i t _ => ?_
    rw [partCalls_eq false fun _ => rfl, fragmentCalls]

theorem stmtCalls_step (s : Stmt) : (stmtCalls s).Perm
    (s.expressions.flatMap (exprCalls (decides (.clause s 0))) ++ s.bodies.flatMap (partCalls false)) := by
  rw [partCalls_bodies]
  cases s with
  | unrecognized p kind statements expressions =>
    simp only [stmtCalls, Stmt.expressions, Stmt.braced?, exprsCalls_eq]
    exact List.perm_append_comm
  | forLoop start test update body =>
    simp only [stmtCalls, Stmt.expressions, Stmt.statements, Stmt.braced?, exprCalls?_eq, stmtCalls?_eq, decides,
      List.flatMap_append, List.flatMap_singleton, List.append_assoc]
    exact List.perm_append_comm_assoc _ _ _ |>.trans (List.Perm.append_left _ (List.perm_append_comm_assoc _ _ _))
  | _ => simp [stmtCalls, Stmt.expressions, Stmt.statements, Stmt.braced?, decides, exprsCalls_eq, exprCalls?_eq,
      stmtCalls?_eq]

/-- **One step of the collection.** A fragment has the call that it is itself and the calls of its parts. -/
theorem fragmentCalls_step (guarded : Bool) (f : Fragment) (hguard : guarded = true → ∃ e, f = .expr e) :
    (fragmentCalls guarded f).Perm ((siteAt guarded ⟨[], f⟩).toList ++ f.parts.flatMap (partCalls guarded)) := by
  cases f with
  | sequence statements =>
    have hparts : (Fragment.sequence statements).parts.flatMap (partCalls guarded) = blockCalls statements := by
      rw [blockCalls_eq]
      refine List.flatMap_congr fun p hp => ?_
      obtain ⟨i, s, -, rfl⟩ := mem_numbered.mp hp
      rfl
    rw [hparts]
    exact .refl _
  | stmt s =>
    obtain rfl : guarded = false := by
      cases guarded with
      | false => rfl
      | true => simp at hguard
    have hparts := s.parts_perm.flatMap_right (partCalls false)
    rw [List.flatMap_append, partCalls_clauses] at hparts
    exact (stmtCalls_step s).trans hparts.symm
  | expr e =>
    rw [siteAt_expr, Fragment.parts, List.flatMap_append, ← List.append_assoc]
    have hcarried : (e.carried?.toList.map fun statements => (Step.carried, Fragment.sequence statements)).flatMap
        (partCalls guarded) = e.carried?.toList.flatMap blockCalls := by
      rw [List.flatMap_map]
      exact List.flatMap_congr fun statements _ => partCalls_eq guarded (fun _ => rfl) _
    rw [hcarried]
    exact .of_eq (exprCalls_step guarded e)

/-- **The collected calls are the low-level calls among the occurrences**, with the flags that the paths give. -/
theorem fragmentCalls_perm (guarded : Bool) (f : Fragment) (hguard : guarded = true → ∃ e, f = .expr e) :
    (fragmentCalls guarded f).Perm (f.occurrences.filterMap (siteAt guarded)) := by
  induction f using Fragment.induction generalizing guarded with
  | step f ih =>
    have hoccurrences : f.occurrences.filterMap (siteAt guarded) = (siteAt guarded ⟨[], f⟩).toList ++
        f.parts.flatMap fun p =>
          (p.2.occurrences.filterMap (siteAt (passGuard guarded p.1))).map (settleUnder p.1) := by
      rw [Fragment.occurrences_eq, List.filterMap_cons, List.filterMap_flatMap]
      simp only [List.filterMap_map, List.map_filterMap, Function.comp_def, siteAt_under]
      cases siteAt guarded ⟨[], f⟩ <;> rfl
    rw [hoccurrences]
    refine (fragmentCalls_step guarded f hguard).trans (List.Perm.append_left _ ?_)
    refine List.Perm.flatMap_left _ fun p hp => (ih p hp _ ?_).map _
    -- a guard survives only on the way from an expression to its operands
    have hlead := Fragment.mem_parts.mp hp
    obtain ⟨step, part⟩ := p
    cases hlead with
    | operand h => exact fun _ => ⟨_, rfl⟩
    | clause h => exact fun _ => ⟨_, rfl⟩
    | carried h => simp [passGuard]
    | _ =>
      intro hpass
      obtain ⟨e, he⟩ := hguard (by simpa [passGuard, decides] using hpass)
      cases he

/-! ## The calls of a body -/

def CallKind.all : List CallKind := [call, delegatecall, send, transfer]

/-- The kind and the place of an expression that calls a member `call`, `delegatecall`, `send` or `transfer`. -/
def memberCall? (e : Expr) : Option (CallKind × Position) :=
  (CallKind.all.find? fun kind => e.calledMember? == some kind.label).map (·, e.pos)

theorem lowLevel?_eq_some {e : Expr} {kind : CallKind} :
    lowLevel? e = some kind ↔ e.calledMember? = some kind.label := by
  cases hname : e.calledMember? with
  | none => simp [lowLevel?, hname]
  | some name =>
    simp only [lowLevel?, hname, Option.bind_some, Option.some.injEq, CallKind.ofMember?]
    constructor
    · intro h
      split at h <;> cases h <;> rfl
    · rintro rfl
      cases kind <;> rfl

theorem memberCall?_eq (e : Expr) : memberCall? e = (lowLevel? e).map (·, e.pos) := by
  cases hkind : lowLevel? e with
  | none =>
    have hne : ∀ kind : CallKind, e.calledMember? ≠ some kind.label := fun kind h => by
      simp [lowLevel?_eq_some.mpr h] at hkind
    simp [memberCall?, CallKind.all, hne]
  | some kind =>
    rw [memberCall?, lowLevel?_eq_some.mp hkind]
    cases kind <;> rfl

theorem blockCalls_perm_walk (statements : List Stmt) :
    ((blockCalls statements).map fun c => (c.kind, c.pos)).Perm ((walkStmts statements).filterMap memberCall?) := by
  have hsite : ∀ o : Occurrence, (siteAt false o).map (fun c => (c.kind, c.pos)) = o.target.expr?.bind memberCall? := by
    intro o
    simp only [siteAt, Option.map_bind, Function.comp_def, Option.map_map]
    exact Option.bind_congr fun e _ => (memberCall?_eq e).symm
  have hwalk : walkStmts statements = (Fragment.sequence statements).walk := rfl
  rw [hwalk, Fragment.walk_eq_occurrences, List.filterMap_filterMap]
  simp only [← hsite]
  rw [← List.map_filterMap]
  exact (fragmentCalls_perm false (.sequence statements) (by simp)).map _

/-- A low-level call that stands somewhere in a body. -/
structure FoundCall where
  path : List Step
  call : Expr
  kind : CallKind

/-- The call as it is collected. -/
def FoundCall.site (c : FoundCall) : CallSite := ⟨c.kind, c.call.pos, decide (Checked c.path c.call.pos)⟩

/-- The list holds every member call of a body that is low-level, each occurrence once. -/
structure FoundIn (statements : List Stmt) (calls : List FoundCall) : Prop where
  nodup : (calls.map FoundCall.path).Nodup
  mem_iff : ∀ c, c ∈ calls ↔
    Occurs (.sequence statements) c.path (.expr c.call) ∧ c.call.calledMember? = some c.kind.label

theorem FoundIn.perm {statements : List Stmt} {calls calls' : List FoundCall} (h : FoundIn statements calls)
    (hperm : calls'.Perm calls) : FoundIn statements calls' :=
  ⟨(hperm.map _).nodup_iff.mpr h.nodup, fun c => hperm.mem_iff.trans (h.mem_iff c)⟩

/-- The low-level call that an occurrence is. -/
def foundAt (o : Occurrence) : Option FoundCall := o.target.expr?.bind fun e => (lowLevel? e).map (⟨o.path, e, ·⟩)

theorem foundAt_eq_some {o : Occurrence} {c : FoundCall} :
    foundAt o = some c ↔ o = ⟨c.path, .expr c.call⟩ ∧ c.call.calledMember? = some c.kind.label := by
  obtain ⟨path, target⟩ := o
  obtain ⟨path', call, kind⟩ := c
  rw [← lowLevel?_eq_some]
  cases target with
  | expr e =>
    simp only [foundAt, Fragment.expr?, Option.bind_some, Option.map_eq_some_iff, FoundCall.mk.injEq,
      Occurrence.mk.injEq, Fragment.expr.injEq]
    constructor
    · rintro ⟨found, hfound, rfl, rfl, rfl⟩
      exact ⟨⟨rfl, rfl⟩, hfound⟩
    · rintro ⟨⟨rfl, rfl⟩, hfound⟩
      exact ⟨kind, hfound, rfl, rfl, rfl⟩
  | _ => simp [foundAt, Fragment.expr?]

theorem siteAt_eq (o : Occurrence) : siteAt false o = (foundAt o).map FoundCall.site := by
  obtain ⟨path, target⟩ := o
  simp only [siteAt, foundAt, Option.map_bind, Function.comp_def, Option.map_map, FoundCall.site]
  refine Option.bind_congr fun e _ => ?_
  congr 1
  funext kind
  rw [CallSite.mk.injEq]
  refine ⟨rfl, rfl, ?_⟩
  rw [Bool.eq_iff_iff, checked_iff, decide_eq_true_iff]

theorem foundIn_occurrences (statements : List Stmt) :
    FoundIn statements ((Fragment.sequence statements).occurrences.filterMap foundAt) := by
  refine ⟨?_, fun c => ?_⟩
  · -- the paths of the calls are some of the paths of the occurrences
    have hpath : ∀ o c, foundAt o = some c → c.path = o.path := fun o c h => by rw [(foundAt_eq_some.mp h).1]
    refine (Fragment.nodup_occurrences (.sequence statements)).sublist ?_
    generalize (Fragment.sequence statements).occurrences = os
    induction os with
    | nil => exact List.Sublist.refl _
    | cons o os ih =>
      cases hfound : foundAt o with
      | none => simpa [hfound] using ih.cons _
      | some c => simpa [hfound, hpath o c hfound] using ih
  · simp only [List.mem_filterMap, foundAt_eq_some, Fragment.mem_occurrences]
    constructor
    · rintro ⟨o, hoccurs, rfl, hmember⟩
      exact ⟨hoccurs, hmember⟩
    · rintro ⟨hoccurs, hmember⟩
      exact ⟨⟨c.path, .expr c.call⟩, hoccurs, rfl, hmember⟩

/-- **The flag of a collected call is what its path says.** -/
theorem exists_foundIn (statements : List Stmt) :
    ∃ calls, FoundIn statements calls ∧ blockCalls statements = calls.map FoundCall.site := by
  have hperm := fragmentCalls_perm false (.sequence statements) (by simp)
  simp only [siteAt_eq] at hperm
  rw [← List.map_filterMap] at hperm
  have hmap : List.Forall₂ (fun s c => s = FoundCall.site c)
      (((Fragment.sequence statements).occurrences.filterMap foundAt).map FoundCall.site)
      ((Fragment.sequence statements).occurrences.filterMap foundAt) := by
    rw [List.forall₂_map_left_iff]
    exact List.forall₂_same.mpr fun _ _ => rfl
  obtain ⟨calls, hforall, hcalls⟩ := List.perm_comp_forall₂ hperm hmap
  refine ⟨calls, (foundIn_occurrences statements).perm hcalls, ?_⟩
  rw [← List.forall₂_eq_eq_eq, List.forall₂_map_right_iff]
  exact hforall

end ContractAudit.Facts
