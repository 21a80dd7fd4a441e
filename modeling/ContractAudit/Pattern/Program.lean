import ContractAudit.Pattern.Syntax

/-!
# Programs for regular expressions

An expression becomes a list of instructions that refer to each other by index. A `split` prefers its first target.
-/

namespace ContractAudit.Pattern

open Unicode (CharSet)

inductive Instr where
  | char (set : CharSet) (next : Nat)
  | look (l : Look) (next : Nat)
  | split (first second : Nat)
  | accept
deriving Repr, Inhabited

abbrev Code := Array Instr

/-- A builder puts instructions in front of `next` and gives the entry. -/
abbrev Builder := Nat → Code → Nat × Code

def emit (i : Instr) (code : Code) : Nat × Code := (code.size, code.push i)

/-- Prefers another round or going on. -/
def choose (greedy : Bool) (round next : Nat) : Instr := if greedy then .split round next else .split next round

/-- The same thing `n` times in a row. -/
def times (n : Nat) (body : Builder) : Builder := fun next code =>
  match n with
  | 0 => (next, code)
  | n + 1 =>
    let (entry, code) := times n body next code
    body entry code

/-- Up to `n` times, all of them leaving to the same place. -/
def upTo (greedy : Bool) (n : Nat) (body : Builder) : Builder := fun next code =>
  match n with
  | 0 => (next, code)
  | n + 1 =>
    let (inner, code) := upTo greedy n body next code
    let (round, code) := body inner code
    emit (choose greedy round next) code

/-- At least once. Gives the entry of the body and the index of the instruction that decides on another round. -/
def loop (greedy : Bool) (body : Builder) (next : Nat) (code : Code) : Nat × Nat × Code :=
  let (decision, code) := emit (.split next next) code
  let (round, code) := body decision code
  (round, decision, code.setIfInBounds decision (choose greedy round next))

/-- Any number of rounds. A body that may read nothing is entered through a decision of its own, so that a round that
reads nothing is not preferred to leaving. -/
def star (greedy nullable : Bool) (body : Builder) : Builder := fun next code =>
  let (round, decision, code) := loop greedy body next code
  if nullable then emit (choose greedy round next) code else (decision, code)

def Regex.build : Regex → Builder
  | empty => fun next code => (next, code)
  | one set => fun next code => emit (.char set next) code
  | look l => fun next code => emit (.look l next) code
  | seq a b => fun next code =>
    let (second, code) := b.build next code
    a.build second code
  | alt a b => fun next code =>
    let (first, code) := a.build next code
    let (second, code) := b.build next code
    emit (.split first second) code
  | rounds greedy min max body => fun next code =>
    match max with
    | some max =>
      let (rest, code) := upTo greedy (max - min) body.build next code
      times min body.build rest code
    | none =>
      match min with
      | 0 => star greedy body.isNullable body.build next code
      | min + 1 =>
        let (entry, _, code) := loop greedy body.build next code
        times min body.build entry code

/-- A program with its first instruction. -/
structure Program where
  code : Code
  entry : Nat
deriving Repr, Inhabited

def Regex.program (r : Regex) : Program :=
  let (entry, code) := r.build 0 #[.accept]
  ⟨code, entry⟩

end ContractAudit.Pattern
