import ContractAudit.Text.Blank
import ContractAudit.Numeric.Reading

/-!
# Compiler versions

A pragma gives a constraint: alternatives separated by `||`, each a list of comparators. `Version.lowest?` is the
lowest version that the lower bounds among them admit.
-/

namespace ContractAudit.Solidity

structure Version where
  major : Nat
  minor : Nat
  patch : Nat
deriving DecidableEq, Repr

namespace Version

/-- Lexicographic order. -/
def le (v w : Version) : Bool :=
  v.major < w.major || (v.major == w.major && (v.minor < w.minor || (v.minor == w.minor && v.patch ≤ w.patch)))

def text (v : Version) : String := toString v.major ++ "." ++ toString v.minor ++ "." ++ toString v.patch

/-- The first version whose arithmetic reverts on overflow. -/
def checkedArithmetic : Version := ⟨0, 8, 0⟩

def hasCheckedArithmetic (v : Version) : Bool := checkedArithmetic.le v

/-- A minor or patch number; wildcards, missing and unreadable parts count as zero. -/
def readPart (part : Option (List Char)) : Nat :=
  (part.bind fun cs => Numeric.readNat? Numeric.maxU32 (Text.dropWhileEnd (fun c => c == 'x' || c == '*') cs)).getD 0

/-- Numbers separated by points; only the first one has to be readable. -/
def read? (cs : List Char) : Option Version :=
  let parts := Text.splitWhere (· == '.') cs
  (parts.head?.bind fun p => Numeric.readNat? Numeric.maxU32 (Text.trimChars p)).map fun major =>
    ⟨major, readPart parts[1]?, readPart parts[2]?⟩

/-- The comparators of all alternatives. -/
def comparators (constraint : List Char) : List (List Char) :=
  (Text.splitMark "||".toList constraint).flatMap Text.words

def isComparatorMark (c : Char) : Bool := c == '^' || c == '~' || c == '>' || c == '=' || c == 'v'

/-- The version from which on a comparator admits versions; none for an upper bound. -/
def lowerBound? (comparator : List Char) : Option Version :=
  if comparator.head? == some '<' then none else read? (comparator.dropWhile isComparatorMark)

def min (v w : Version) : Version := if v.le w then v else w

/-- The least of the lower bounds. A constraint of upper bounds alone admits every version. -/
def lowest? (constraint : String) : Option Version :=
  let cs := comparators constraint.toList
  match cs.filterMap lowerBound? with
  | v :: vs => some (vs.foldl min v)
  | [] => if !cs.isEmpty && constraint.toList.contains '<' then some ⟨0, 0, 0⟩ else none

end Version

end ContractAudit.Solidity
