import ContractAudit.Json.Basic
import ContractAudit.Numeric.Reading

/-!
# Decoding JSON

Readers of typed values. A record is an object with named fields, of which those without a name that is asked for are
passed over, or an array of the fields in their order. The level of nesting is bounded, but only in parts that are
read.
-/

namespace ContractAudit.Json

open Numeric (Binary)

/-- Reads a value, with a bound on the levels of arrays and objects that may still be entered. -/
abbrev Decoder (α : Type) := Nat → Json → Option α

/-- The bound inside an array or object. -/
def enter? (bound : Nat) : Option Nat := if bound ≤ 1 then none else some (bound - 1)

def decodeString : Decoder String
  | _, string s => some s
  | _, _ => none

/-- A natural number of 64 bits. -/
def decodeNat : Decoder Nat
  | _, number (.int n) => if 0 ≤ n && n.natAbs ≤ Numeric.maxU64 then some n.natAbs else none
  | _, _ => none

def decodeDouble : Decoder Binary
  | _, number (.int n) => some (Numeric.binary64.ofInt n)
  | _, number (.double value) => some value
  | _, _ => none

/-- Whole numbers are rounded once, other numbers by way of a double. -/
def decodeSingle : Decoder Binary
  | _, number (.int n) => some (Numeric.binary32.ofInt n)
  | _, number (.double value) => some (Numeric.binary32.convert value)
  | _, _ => none

def decodeList {α : Type} (item : Decoder α) : Decoder (List α)
  | bound, array items => (enter? bound).bind fun inner => items.mapM (item inner)
  | _, _ => none

/-- A value, or null for none. -/
def decodeOption {α : Type} (item : Decoder α) : Decoder (Option α)
  | _, null => some none
  | bound, j => (item bound j).map some

/-- One of some names, as a text or as the only field of an object, whose value is null. -/
def decodeName {α : Type} (named : String → Option α) : Decoder α
  | _, string s => named s
  | bound, object [(name, null)] => (enter? bound).bind fun _ => named name
  | _, _ => none

/-- A map from names; of fields with one name the last counts. -/
def decodeMap {α : Type} (item : Decoder α) : Decoder (List (String × α))
  | bound, object fields => (enter? bound).bind fun inner =>
    fields.mapM fun (name, j) => (item inner j).map (name, ·)
  | _, _ => none

mutual

/-- Can every part be used, within the bound? -/
def isUsable (bound : Nat) : Json → Bool
  | array items => 1 < bound && areUsable (bound - 1) items
  | object fields => 1 < bound && fieldsUsable (bound - 1) fields
  | unusable => false
  | _ => true

def areUsable (bound : Nat) : List Json → Bool
  | [] => true
  | j :: js => isUsable bound j && areUsable bound js

def fieldsUsable (bound : Nat) : List (String × Json) → Bool
  | [] => true
  | (_, j) :: fs => isUsable bound j && fieldsUsable bound fs

end

/-- Any value all of whose parts can be used. -/
def decodeAny : Decoder Json := fun bound j => if isUsable bound j then some j else none

/-! ## Records -/

/-- The fields of a record that are asked for, in their order, and the bound inside it. -/
structure Record where
  values : List (Option Json)
  /-- The record was an array of fields. -/
  positional : Bool
  bound : Nat

/-- The value of a field; `none` if the field is there twice. -/
def fieldOf? (fields : List (String × Json)) (name : String) : Option (Option Json) :=
  match fields.filter fun f => f.1 == name with
  | [] => some none
  | [(_, j)] => some (some j)
  | _ => none

/-- The record with fields of the given names. -/
def record? (names : List String) : Decoder Record
  | bound, object fields =>
    (enter? bound).bind fun inner => (names.mapM (fieldOf? fields)).map fun values => ⟨values, false, inner⟩
  | bound, array items =>
    (enter? bound).bind fun inner =>
      if items.length ≤ names.length then
        some ⟨items.map some ++ List.replicate (names.length - items.length) none, true, inner⟩
      else none
  | _, _ => none

namespace Record

def value? (r : Record) (i : Nat) : Option Json := (r.values[i]?).join

/-- A field that has to be there. -/
def required? {α : Type} (r : Record) (i : Nat) (item : Decoder α) : Option α := (r.value? i).bind (item r.bound)

/-- A field with a value if it is missing. -/
def withDefault? {α : Type} (r : Record) (i : Nat) (item : Decoder α) (fallback : α) : Option α :=
  match r.value? i with
  | none => some fallback
  | some j => item r.bound j

/-- A field that may be null, or missing unless the fields are given by position. -/
def nullable? {α : Type} (r : Record) (i : Nat) (item : Decoder α) : Option (Option α) :=
  match r.value? i with
  | none => if r.positional then none else some none
  | some j => decodeOption item r.bound j

end Record

/-- The bound on nesting in a text that is read strictly. -/
def strictBound : Nat := 128

end ContractAudit.Json
