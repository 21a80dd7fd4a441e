import ContractAudit.Proofs.Solidity.Fragment
import Mathlib.Logic.Relation

/-!
# What a fragment contains

`Holds` names the fields of the syntax one by one, and with them everything that can stand directly below a statement or
an expression. `Contains` goes down any number of fields. Both are given without the functions that list what is
directly below, which turn out to list exactly these fields (`mem_children_iff`, `mem_expressions_iff`,
`mem_statements_iff`); so a traversal visits an expression exactly if it is contained (`mem_walk_iff_contains`).
-/

namespace ContractAudit.Solidity

open Text (Position)

/-- `Holds f g`: one field of `f` holds `g`. -/
inductive Holds : Fragment → Fragment → Prop
  | item {statements : List Stmt} {s : Stmt} (h : s ∈ statements) : Holds (.sequence statements) (.stmt s)
  -- statements
  | block {p : Position} {body : List Stmt} : Holds (.stmt (.block p body)) (.sequence body)
  | unchecked {p : Position} {body : List Stmt} : Holds (.stmt (.unchecked p body)) (.sequence body)
  | expression {value : Expr} : Holds (.stmt (.expression value)) (.expr value)
  | declared {p : Position} {slots : List Slot} {value : Expr} :
    Holds (.stmt (.declaration p slots (some value))) (.expr value)
  | branchTest {test : Expr} {yes : Stmt} {no : Option Stmt} : Holds (.stmt (.branch test yes no)) (.expr test)
  | branchYes {test : Expr} {yes : Stmt} {no : Option Stmt} : Holds (.stmt (.branch test yes no)) (.stmt yes)
  | branchNo {test : Expr} {yes no : Stmt} : Holds (.stmt (.branch test yes (some no))) (.stmt no)
  | forStart {start : Stmt} {test update : Option Expr} {body : Stmt} :
    Holds (.stmt (.forLoop (some start) test update body)) (.stmt start)
  | forTest {start : Option Stmt} {test : Expr} {update : Option Expr} {body : Stmt} :
    Holds (.stmt (.forLoop start (some test) update body)) (.expr test)
  | forUpdate {start : Option Stmt} {test : Option Expr} {update : Expr} {body : Stmt} :
    Holds (.stmt (.forLoop start test (some update) body)) (.expr update)
  | forBody {start : Option Stmt} {test update : Option Expr} {body : Stmt} :
    Holds (.stmt (.forLoop start test update body)) (.stmt body)
  | whileTest {test : Expr} {body : Stmt} : Holds (.stmt (.whileLoop test body)) (.expr test)
  | whileBody {test : Expr} {body : Stmt} : Holds (.stmt (.whileLoop test body)) (.stmt body)
  | doBody {body : Stmt} {test : Expr} : Holds (.stmt (.doLoop body test)) (.stmt body)
  | doTest {body : Stmt} {test : Expr} : Holds (.stmt (.doLoop body test)) (.expr test)
  | returned {value : Expr} : Holds (.stmt (.returns (some value))) (.expr value)
  | event {p : Position} {event : Expr} {arguments : List Expr} : Holds (.stmt (.emit p event arguments)) (.expr event)
  | eventArgument {p : Position} {event e : Expr} {arguments : List Expr} (h : e ∈ arguments) :
    Holds (.stmt (.emit p event arguments)) (.expr e)
  | error {error : Expr} {arguments : List Expr} : Holds (.stmt (.revert (some error) arguments)) (.expr error)
  | errorArgument {error : Option Expr} {e : Expr} {arguments : List Expr} (h : e ∈ arguments) :
    Holds (.stmt (.revert error arguments)) (.expr e)
  | keptStatements {p : Position} {kind : String} {statements : List Stmt} {expressions : List Expr} :
    Holds (.stmt (.unrecognized p kind statements expressions)) (.sequence statements)
  | keptExpression {p : Position} {kind : String} {statements : List Stmt} {expressions : List Expr} {e : Expr}
    (h : e ∈ expressions) : Holds (.stmt (.unrecognized p kind statements expressions)) (.expr e)
  -- expressions
  | object {p : Position} {object : Expr} {name : String} : Holds (.expr (.member p object name)) (.expr object)
  | callee {p : Position} {callee : Expr} {options arguments : List Expr} :
    Holds (.expr (.call p callee options arguments)) (.expr callee)
  | option {p : Position} {callee e : Expr} {options arguments : List Expr} (h : e ∈ options) :
    Holds (.expr (.call p callee options arguments)) (.expr e)
  | argument {p : Position} {callee e : Expr} {options arguments : List Expr} (h : e ∈ arguments) :
    Holds (.expr (.call p callee options arguments)) (.expr e)
  | base {p : Position} {base : Expr} {key : Option Expr} : Holds (.expr (.index p base key)) (.expr base)
  | key {p : Position} {base key : Expr} : Holds (.expr (.index p base (some key))) (.expr key)
  | binaryLeft {p : Position} {left right : Expr} {operator : String} :
    Holds (.expr (.binary p left operator right)) (.expr left)
  | binaryRight {p : Position} {left right : Expr} {operator : String} :
    Holds (.expr (.binary p left operator right)) (.expr right)
  | target {p : Position} {left right : Expr} {operator : String} :
    Holds (.expr (.assignment p left operator right)) (.expr left)
  | assigned {p : Position} {left right : Expr} {operator : String} :
    Holds (.expr (.assignment p left operator right)) (.expr right)
  | operand {p : Position} {operator : String} {operand : Expr} :
    Holds (.expr (.unary p operator operand)) (.expr operand)
  | choiceTest {p : Position} {test yes no : Expr} : Holds (.expr (.conditional p test yes no)) (.expr test)
  | choiceYes {p : Position} {test yes no : Expr} : Holds (.expr (.conditional p test yes no)) (.expr yes)
  | choiceNo {p : Position} {test yes no : Expr} : Holds (.expr (.conditional p test yes no)) (.expr no)
  | component {p : Position} {items : List Expr} {e : Expr} (h : e ∈ items) : Holds (.expr (.tuple p items)) (.expr e)
  | carriedStatements {p : Position} {kind : String} {statements : List Stmt} {expressions : List Expr} :
    Holds (.expr (.unrecognized p kind statements expressions)) (.sequence statements)
  | carriedExpression {p : Position} {kind : String} {statements : List Stmt} {expressions : List Expr} {e : Expr}
    (h : e ∈ expressions) : Holds (.expr (.unrecognized p kind statements expressions)) (.expr e)

/-- `Contains f g`: `g` is `f` itself or stands somewhere below it. -/
def Contains : Fragment → Fragment → Prop := Relation.ReflTransGen Holds

/-! ## What is listed directly below -/

theorem mem_children_iff {e x : Expr} : x ∈ e.children ↔ Holds (.expr e) (.expr x) := by
  constructor
  · intro h
    cases e with
    | identifier => cases h
    | literal => cases h
    | member => exact List.mem_singleton.mp h ▸ .object
    | call p callee options arguments =>
      simp only [Expr.children, List.cons_append, List.mem_cons, List.mem_append] at h
      rcases h with rfl | h | h
      · exact .callee
      · exact .option h
      · exact .argument h
    | index p base key =>
      rcases List.mem_cons.mp h with rfl | h
      · exact .base
      · exact Option.mem_toList.mp h ▸ .key
    | binary =>
      rcases List.mem_pair.mp h with rfl | rfl
      · exact .binaryLeft
      · exact .binaryRight
    | assignment =>
      rcases List.mem_pair.mp h with rfl | rfl
      · exact .target
      · exact .assigned
    | unary => exact List.mem_singleton.mp h ▸ .operand
    | conditional =>
      simp only [Expr.children, List.mem_cons, List.not_mem_nil, or_false] at h
      rcases h with rfl | rfl | rfl
      · exact .choiceTest
      · exact .choiceYes
      · exact .choiceNo
    | tuple => exact .component h
    | unrecognized => exact .carriedExpression h
  · intro h
    cases h <;> simp [Expr.children, *]

theorem mem_expressions_iff {s : Stmt} {e : Expr} : e ∈ s.expressions ↔ Holds (.stmt s) (.expr e) := by
  constructor
  · intro h
    cases s with
    | block => cases h
    | unchecked => cases h
    | expression => exact List.mem_singleton.mp h ▸ .expression
    | declaration => exact Option.mem_toList.mp h ▸ .declared
    | branch => exact List.mem_singleton.mp h ▸ .branchTest
    | forLoop =>
      rcases List.mem_append.mp h with h | h
      · exact Option.mem_toList.mp h ▸ .forTest
      · exact Option.mem_toList.mp h ▸ .forUpdate
    | whileLoop => exact List.mem_singleton.mp h ▸ .whileTest
    | doLoop => exact List.mem_singleton.mp h ▸ .doTest
    | returns => exact Option.mem_toList.mp h ▸ .returned
    | emit =>
      rcases List.mem_cons.mp h with rfl | h
      · exact .event
      · exact .eventArgument h
    | revert =>
      rcases List.mem_append.mp h with h | h
      · exact Option.mem_toList.mp h ▸ .error
      · exact .errorArgument h
    | unrecognized => exact .keptExpression h
  · intro h
    cases h <;> simp [Stmt.expressions, *]

theorem mem_statements_iff {s t : Stmt} : s.braced? = none ∧ t ∈ s.statements ↔ Holds (.stmt s) (.stmt t) := by
  constructor
  · rintro ⟨hs, h⟩
    cases s with
    | branch =>
      rcases List.mem_cons.mp h with rfl | h
      · exact .branchYes
      · exact Option.mem_toList.mp h ▸ .branchNo
    | forLoop =>
      rcases List.mem_append.mp h with h | h
      · exact Option.mem_toList.mp h ▸ .forStart
      · exact List.mem_singleton.mp h ▸ .forBody
    | whileLoop => exact List.mem_singleton.mp h ▸ .whileBody
    | doLoop => exact List.mem_singleton.mp h ▸ .doBody
    | block | unchecked | unrecognized => cases hs
    | _ => cases h
  · intro h
    cases h <;> simp [Stmt.statements, Stmt.braced?]

theorem braced?_eq_some_iff {s : Stmt} {statements : List Stmt} :
    s.braced? = some statements ↔ Holds (.stmt s) (.sequence statements) := by
  constructor
  · intro h
    cases s with
    | block => exact Option.some.inj h ▸ .block
    | unchecked => exact Option.some.inj h ▸ .unchecked
    | unrecognized => exact Option.some.inj h ▸ .keptStatements
    | _ => cases h
  · intro h
    cases h <;> rfl

theorem carried?_eq_some_iff {e : Expr} {statements : List Stmt} :
    e.carried? = some statements ↔ Holds (.expr e) (.sequence statements) := by
  constructor
  · intro h
    cases e with
    | unrecognized => exact Option.some.inj h ▸ .carriedStatements
    | _ => cases h
  · intro h
    cases h
    rfl

theorem leads_iff_holds {f g : Fragment} : (∃ step, Leads f step g) ↔ Holds f g := by
  constructor
  · rintro ⟨step, h⟩
    cases h with
    | item h => exact .item (List.mem_of_getElem? h)
    | braces h => exact braced?_eq_some_iff.mp h
    | arm hs h => exact mem_statements_iff.mp ⟨hs, List.mem_of_getElem? h⟩
    | clause h => exact mem_expressions_iff.mp (List.mem_of_getElem? h)
    | operand h => exact mem_children_iff.mp (List.mem_of_getElem? h)
    | carried h => exact carried?_eq_some_iff.mp h
  · intro h
    cases f with
    | sequence statements =>
      cases h with
      | item h =>
        obtain ⟨i, hi⟩ := List.getElem?_of_mem h
        exact ⟨_, .item hi⟩
    | stmt s =>
      cases g with
      | sequence statements => exact ⟨_, .braces (braced?_eq_some_iff.mpr h)⟩
      | stmt t =>
        obtain ⟨hs, ht⟩ := mem_statements_iff.mpr h
        obtain ⟨i, hi⟩ := List.getElem?_of_mem ht
        exact ⟨_, .arm hs hi⟩
      | expr e =>
        obtain ⟨i, hi⟩ := List.getElem?_of_mem (mem_expressions_iff.mpr h)
        exact ⟨_, .clause hi⟩
    | expr e =>
      cases g with
      | sequence statements => exact ⟨_, .carried (carried?_eq_some_iff.mpr h)⟩
      | stmt t => cases h
      | expr x =>
        obtain ⟨i, hi⟩ := List.getElem?_of_mem (mem_children_iff.mpr h)
        exact ⟨_, .operand hi⟩

/-! ## What is visited -/

theorem contains_iff_occurs {f g : Fragment} : Contains f g ↔ ∃ path, Occurs f path g := by
  constructor
  · intro h
    induction h using Relation.ReflTransGen.head_induction_on with
    | refl => exact ⟨[], .here g⟩
    | head hstep _ ih =>
      obtain ⟨step, hleads⟩ := leads_iff_holds.mpr hstep
      obtain ⟨path, hpath⟩ := ih
      exact ⟨step :: path, .deeper hleads hpath⟩
  · rintro ⟨path, h⟩
    induction h with
    | here => exact .refl
    | deeper hstep _ ih => exact .head (leads_iff_holds.mp ⟨_, hstep⟩) ih

/-- **A traversal visits exactly the expressions that a fragment contains.** -/
theorem mem_walk_iff_contains {f : Fragment} {e : Expr} : e ∈ f.walk ↔ Contains f (.expr e) := by
  rw [Fragment.mem_walk, contains_iff_occurs]

end ContractAudit.Solidity
