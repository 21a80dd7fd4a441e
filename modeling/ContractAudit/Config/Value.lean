import ContractAudit.Numeric.Layout
import ContractAudit.Numeric.Reading
import ContractAudit.Text.Blank

/-!
# Configuration values

The values of a configuration, whatever they are written in. Tables are merged, all else is replaced; a value is
converted where another kind is asked for.
-/

namespace ContractAudit.Config

open Numeric (Binary)

inductive Value where
  | null
  | bool (value : Bool)
  | int (value : Int)
  | float (value : Binary)
  | text (value : String)
  | list (items : List Value)
  | table (fields : List (String × Value))
deriving Repr, Inhabited

abbrev Fields := List (String × Value)

/-- Puts a value under a name, in the place of one that is there. -/
def put (name : String) (value : Value) : Fields → Fields
  | [] => [(name, value)]
  | (n, v) :: rest => if n = name then (n, value) :: rest else (n, v) :: put name value rest

namespace Value

def fields : Value → Fields
  | table fields => fields
  | _ => []

mutual

/-- The value that is left when a new one comes under a name. Of two tables all fields are merged. -/
def onto : Value → Value → Value
  | table [], old => old
  | table (f :: fs), old => table (ontoFields (f :: fs) old.fields)
  | value, _ => value

def ontoFields : Fields → Fields → Fields
  | [], old => old
  | (name, value) :: rest, old => ontoFields rest (put name (value.onto ((old.lookup name).getD (table []))) old)

end

/-- Sets what a path leads to. Tables are made on the way where nothing is, and at its end where something else is. -/
def set : List String → Value → Value → Value
  | [], value, _ => value
  | [name], value, root => table (put name (value.onto ((root.fields.lookup name).getD (table []))) root.fields)
  | name :: next :: path, value, root =>
    match root.fields.lookup name with
    | some (table fields) => table (put name (set (next :: path) value (table fields)) root.fields)
    | some null | none => table (put name (set (next :: path) value (table [])) root.fields)
    | some other =>
      if path.isEmpty then table (put name (set (next :: path) value (table [])) root.fields)
      else table (put name other root.fields)

/-! ## Conversions -/

def isTruthText (s : String) : Bool := ["true", "on", "yes"].contains (Text.lowerAscii s)

def isFalsehoodText (s : String) : Bool := ["false", "off", "no"].contains (Text.lowerAscii s)

def bool? : Value → Option Bool
  | bool b => some b
  | int n => some (n != 0)
  | float x => some !x.isZero
  | text s =>
    if s == "1" || isTruthText s then some true else if s == "0" || isFalsehoodText s then some false else none
  | _ => none

/-- The nearest natural number of 64 bits. -/
def natOfFloat : Binary → Nat
  | .finite false significand exponent => min (Binary.nearest significand exponent) Numeric.maxU64
  | .infinite false => Numeric.maxU64
  | _ => 0

/-- A natural number of 64 bits. -/
def nat? : Value → Option Nat
  | bool b => some b.toNat
  | int n => if 0 ≤ n then some n.toNat else none
  | float x => some (natOfFloat x)
  | text s =>
    if isTruthText s then some 1 else if isFalsehoodText s then some 0
    else Numeric.readNat? Numeric.maxU64 s.toList
  | _ => none

def text? : Value → Option String
  | bool b => some (toString b)
  | int n => some (toString n)
  | float x => some (Numeric.messageLayout.text Numeric.binary64 x)
  | text s => some s
  | _ => none

def texts? : Value → Option (List String)
  | list items => items.mapM text?
  | _ => none

end Value

end ContractAudit.Config
