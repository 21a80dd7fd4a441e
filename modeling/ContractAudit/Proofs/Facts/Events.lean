import ContractAudit.Facts.Contract
import ContractAudit.Proofs.Solidity.Fragment

/-!
# The events of a body

`EmittedAt` says where in a body an event is emitted, through everything that can stand below a statement, also through
the statements that an unrecognized expression carries. The facts of a function name its events once each
(`nodup_emittedEvents`), and they name exactly those that are emitted outside expressions (`mem_emittedEvents`). An
event that is emitted only below an expression, as in the clause behind a failed attempt, is not among them.
-/

namespace ContractAudit.Facts

open Solidity

/-- `Emits s name`: the statement emits an event, given by its name or as a member of that name. -/
inductive Emits : Stmt → String → Prop
  | identifier {p q : Text.Position} {name : String} {arguments : List Expr} :
    Emits (.emit p (.identifier q name) arguments) name
  | member {p q : Text.Position} {object : Expr} {name : String} {arguments : List Expr} :
    Emits (.emit p (.member q object name) arguments) name

theorem emittedName?_eq_some {s : Stmt} {name : String} : emittedName? s = some name ↔ Emits s name := by
  constructor
  · intro h
    unfold emittedName? at h
    split at h
    · split at h
      · cases h
        exact .identifier
      · cases h
        exact .member
      · cases h
    · cases h
  · rintro (_ | _) <;> rfl

/-- The event is emitted by the statement at the end of the path. -/
def EmittedAt (statements : List Stmt) (path : List Step) (name : String) : Prop :=
  ∃ s, Occurs (.sequence statements) path (.stmt s) ∧ Emits s name

/-! ## Events -/

theorem nodup_eraseDups (names : List String) : names.eraseDups.Nodup := by
  induction hlength : names.length using Nat.strongRecOn generalizing names with
  | ind length ih =>
    cases names with
    | nil => exact List.nodup_nil
    | cons name rest =>
      rw [List.eraseDups_cons, List.nodup_cons, List.mem_eraseDups]
      refine ⟨by simp, ih _ ?_ _ rfl⟩
      rw [← hlength]
      exact Nat.lt_succ_of_le (List.length_filter_le _ rest)

theorem nodup_emittedEvents (body : Block) : (emittedEvents body).Nodup := nodup_eraseDups _

/-- **The events of a body are those that are emitted outside expressions.** -/
theorem mem_emittedEvents {body : Block} {name : String} :
    name ∈ emittedEvents body ↔ ∃ path, EmittedAt body.statements path name ∧ Step.carried ∉ path := by
  have hnested : ∀ s, s ∈ nestedAll body.statements ↔
      ∃ path, Occurs (.sequence body.statements) path (.stmt s) ∧ Step.carried ∉ path :=
    fun s => Fragment.mem_nested (f := .sequence body.statements)
  rw [emittedEvents, List.mem_eraseDups, List.mem_filterMap]
  constructor
  · rintro ⟨s, hs, hname⟩
    obtain ⟨path, hpath, hfree⟩ := (hnested s).mp hs
    exact ⟨path, ⟨s, hpath, emittedName?_eq_some.mp hname⟩, hfree⟩
  · rintro ⟨path, ⟨s, hpath, hemits⟩, hfree⟩
    exact ⟨s, (hnested s).mpr ⟨path, hpath, hfree⟩, emittedName?_eq_some.mpr hemits⟩

theorem emittedEvents_complete_iff (body : Block) :
    (∀ name, name ∈ emittedEvents body ↔ ∃ path, EmittedAt body.statements path name) ↔
      ∀ name path, EmittedAt body.statements path name →
        ∃ outside, EmittedAt body.statements outside name ∧ Step.carried ∉ outside := by
  simp only [mem_emittedEvents]
  constructor
  · intro hcomplete name path hemitted
    exact (hcomplete name).mpr ⟨path, hemitted⟩
  · intro houtside name
    constructor
    · rintro ⟨path, hemitted, -⟩
      exact ⟨path, hemitted⟩
    · rintro ⟨path, hemitted⟩
      exact houtside name path hemitted

end ContractAudit.Facts
