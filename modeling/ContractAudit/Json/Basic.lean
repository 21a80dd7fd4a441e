import ContractAudit.Numeric.Layout

/-!
# JSON values

A value keeps its object fields in the order in which they are written. A part of a text can be well formed and still
have no value: a number that is out of range, or half of a surrogate pair. It is kept as `unusable`, which matters
only to a reader who needs that part.
-/

namespace ContractAudit

open Numeric (Binary)

namespace Json

inductive Number where
  | int (n : Int)
  | double (value : Binary)
  | single (value : Binary)
deriving DecidableEq, Repr

end Json

inductive Json where
  | null
  | bool (b : Bool)
  | number (n : Json.Number)
  | string (s : String)
  | array (items : List Json)
  | object (fields : List (String × Json))
  | unusable
deriving Repr, Inhabited

namespace Json

def nat (n : Nat) : Json := .number (.int n)

/-- A text, or null if there is none. -/
def text? (s : Option String) : Json := (s.map Json.string).getD .null

mutual

/-- Levels of arrays and objects. -/
def depth : Json → Nat
  | array items => 1 + depthItems items
  | object fields => 1 + depthFields fields
  | _ => 0

def depthItems : List Json → Nat
  | [] => 0
  | j :: js => max j.depth (depthItems js)

def depthFields : List (String × Json) → Nat
  | [] => 0
  | (_, j) :: fs => max j.depth (depthFields fs)

end

end Json

end ContractAudit
