import ContractAudit.Config.Value

/-!
# TOML tables

How the statements of a file build up its tables. A table is opened once by a header; it may be made before, on the way
to a table inside it. Names with dots in front of a value make tables that no header can open.
-/

namespace ContractAudit.Toml

open Config (Value)

inductive Item where
  | value (v : Value)
  /-- A table; `opened` if there was a header for it. -/
  | table (opened : Bool) (fields : List (String × Item))
  /-- A table that was made by a name with dots. -/
  | dotted (fields : List (String × Item))
  /-- Tables under one name, the latest first. -/
  | tables (elements : List (List (String × Item)))

abbrev Items := List (String × Item)

/-- Puts an item under a name, in the place of one that is there. -/
def putItem (name : String) (item : Item) : Items → Items
  | [] => [(name, item)]
  | (n, i) :: rest => if n = name then (n, item) :: rest else (n, i) :: putItem name item rest

/-- Changes the table that a header leads to. -/
def within? (change : Items → Option Items) : List String → Items → Option Items
  | [], items => change items
  | name :: path, items =>
    match items.lookup name with
    | none => (within? change path []).map fun inner => putItem name (.table false inner) items
    | some (.table opened inner) =>
      (within? change path inner).map fun inner => putItem name (.table opened inner) items
    | some (.tables (last :: before)) =>
      (within? change path last).map fun last => putItem name (.tables (last :: before)) items
    | _ => none

/-- Opens a table under a name, once. -/
def openTable? (name : String) (items : Items) : Option Items :=
  match items.lookup name with
  | none => some (putItem name (.table true []) items)
  | some (.table false inner) => some (putItem name (.table true inner) items)
  | _ => none

/-- Adds one more table under a name. -/
def addTable? (name : String) (items : Items) : Option Items :=
  match items.lookup name with
  | none => some (putItem name (.tables [[]]) items)
  | some (.tables elements) => some (putItem name (.tables ([] :: elements)) items)
  | _ => none

/-- Adds a value under a name with dots. -/
def addValue? (v : Value) : List String → Items → Option Items
  | [], _ => none
  | [name], items => if (items.lookup name).isSome then none else some (putItem name (.value v) items)
  | name :: next :: path, items =>
    match items.lookup name with
    | none => (addValue? v (next :: path) []).map fun inner => putItem name (.dotted inner) items
    | some (.dotted inner) => (addValue? v (next :: path) inner).map fun inner => putItem name (.dotted inner) items
    | _ => none

mutual

/-- The value of an item. -/
def Item.toValue : Item → Value
  | .value v => v
  | .table _ fields | .dotted fields => .table (fieldValues fields)
  | .tables elements => .list (elementValues elements).reverse

def fieldValues : List (String × Item) → List (String × Value)
  | [] => []
  | (name, item) :: rest => (name, item.toValue) :: fieldValues rest

def elementValues : List (List (String × Item)) → List Value
  | [] => []
  | fields :: rest => .table (fieldValues fields) :: elementValues rest

end

end ContractAudit.Toml
