import ContractAudit.Unicode.CharSet

/-!
# Regular expressions

Expressions over characters with assertions about the place between two characters. Alternatives and repetitions are
ordered: the earlier alternative, and one more round of a greedy repetition, is preferred.
-/

namespace ContractAudit.Pattern

open Unicode (CharSet)

/-- What an assertion looks at. Words are made of the characters of a given set. -/
inductive Look where
  | textStart
  | textEnd
  | lineStart
  | lineEnd
  /-- Lines may also end with a carriage return. -/
  | returnLineStart
  | returnLineEnd
  | wordBoundary (word : CharSet)
  | notWordBoundary (word : CharSet)
  | wordStart (word : CharSet)
  | wordEnd (word : CharSet)
  | notAfterWord (word : CharSet)
  | notBeforeWord (word : CharSet)
deriving DecidableEq, Repr

/-- Does the assertion hold between two characters? A missing character stands for an end of the text. -/
def Look.holds (before after : Option Char) : Look → Bool
  | textStart => before.isNone
  | textEnd => after.isNone
  | lineStart => before.all (· == '\n')
  | lineEnd => after.all (· == '\n')
  | returnLineStart => before.all fun c => c == '\n' || (c == '\r' && after != some '\n')
  | returnLineEnd => after.all fun c => c == '\r' || (c == '\n' && before != some '\r')
  | wordBoundary w => before.any w.contains != after.any w.contains
  | notWordBoundary w => before.any w.contains == after.any w.contains
  | wordStart w => !before.any w.contains && after.any w.contains
  | wordEnd w => before.any w.contains && !after.any w.contains
  | notAfterWord w => !before.any w.contains
  | notBeforeWord w => !after.any w.contains

inductive Regex where
  | empty
  /-- One character of a set. -/
  | one (set : CharSet)
  | look (l : Look)
  | seq (first second : Regex)
  | alt (first second : Regex)
  /-- At least `min` and at most `max` rounds. -/
  | rounds (greedy : Bool) (min : Nat) (max : Option Nat) (body : Regex)
deriving DecidableEq, Repr, Inhabited

namespace Regex

/-- May it match without reading a character? -/
def isNullable : Regex → Bool
  | empty | look _ => true
  | one set => set.ranges.isEmpty
  | seq a b => a.isNullable && b.isNullable
  | alt a b => a.isNullable || b.isNullable
  | rounds _ min _ body => min == 0 || body.isNullable

/-- Can it match only without reading a character? -/
def isVoid : Regex → Bool
  | empty | look _ => true
  | one _ => false
  | seq a b | alt a b => a.isVoid && b.isVoid
  | rounds _ _ max body => max == some 0 || body.isVoid

/-- A repetition. Of what reads nothing, a second round adds nothing. -/
def many (greedy : Bool) (min : Nat) (max : Option Nat) (body : Regex) : Regex :=
  let (min, max) := if body.isVoid then (Nat.min min 1, some (Nat.min (max.getD 1) 1)) else (min, max)
  if max == some 0 then empty
  else if min == 1 && max == some 1 then body
  else rounds greedy min max body

/-- An estimate of the bytes that a set of characters takes in a machine that reads bytes. -/
def setCost (set : CharSet) : Nat :=
  match set.ranges with
  | [(low, high)] => if high < 0x80 then 32 else if low == high then 96 else 256
  | ranges => if ranges.all (·.2 < 0x80) then 32 + 8 * ranges.length else 64 * ranges.length

/-- An estimate of the bytes that the machine for an expression takes. -/
def cost : Regex → Nat
  | empty => 0
  | one set => setCost set
  | look _ => 32
  | seq a b => a.cost + b.cost
  | alt a b => a.cost + b.cost + 40
  | rounds _ min max body => (body.cost + 40) * max.getD (min + 1)

/-- The greatest cost of an expression that is accepted. -/
def maxCost : Nat := 10 * Nat.pow 2 20

end Regex

end ContractAudit.Pattern
