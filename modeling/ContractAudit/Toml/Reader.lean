import ContractAudit.Toml.Scalar
import ContractAudit.Toml.Table

/-!
# Reading TOML

A file is a list of lines: headers that open tables, and names with their values, which go to the table that was opened
last.
-/

namespace ContractAudit.Toml

open Config (Value)

def skipGap (cs : List Char) : List Char := cs.dropWhile fun c => c == ' ' || c == '\t'

/-- What follows a line: at most a comment may be left of it. -/
def lineEnd? (cs : List Char) : Option (List Char) :=
  let cs := skipGap cs
  let cs := if cs.head? == some '#' then cs.dropWhile isTextChar else cs
  match cs with
  | [] => some []
  | '\n' :: rest => some rest
  | _ => none

/-- Passes over blanks, comments and line ends. -/
def skipLines : Nat → List Char → List Char
  | 0, cs => cs
  | fuel + 1, cs =>
    match skipGap cs with
    | '\n' :: rest => skipLines fuel rest
    | '#' :: rest => skipLines fuel (rest.dropWhile isTextChar)
    | rest => rest

/-! ## Names -/

/-- A name, without quotes or with quotes in one line. -/
def name? (cs : List Char) : Option (String × List Char) :=
  match cs with
  | c :: rest =>
    if c == '"' || c == '\'' then
      (text? c rest).bind fun (s, hasLines, rest) => if hasLines then none else some (s, rest)
    else if isNameChar c then some (String.ofList (cs.takeWhile isNameChar), cs.dropWhile isNameChar)
    else none
  | [] => none

/-- Names with dots between them. -/
def path? : Nat → List Char → Option (List String × List Char)
  | 0, _ => none
  | fuel + 1, cs => do
    let (name, rest) ← name? (skipGap cs)
    match skipGap rest with
    | '.' :: more => (path? fuel more).map fun (names, rest) => (name :: names, rest)
    | rest => return ([name], rest)

/-! ## Values -/

mutual

def value? : Nat → List Char → Option (Value × List Char)
  | 0, _ => none
  | fuel + 1, cs =>
    match cs with
    | '"' :: rest => (text? '"' rest).map fun (s, _, rest) => (.text s, rest)
    | '\'' :: rest => (text? '\'' rest).map fun (s, _, rest) => (.text s, rest)
    | '[' :: rest => (elements? fuel rest).map fun (items, rest) => (.list items, rest)
    | '\x7b' :: rest =>
      match skipGap rest with
      | '\x7d' :: rest => some (.table [], rest)
      | rest => (pairs? fuel [] rest).map fun (items, rest) => (.table (fieldValues items), rest)
    | _ => bare? cs

/-- The elements of a list, with commas between them, and perhaps one behind the last. -/
def elements? : Nat → List Char → Option (List Value × List Char)
  | 0, _ => none
  | fuel + 1, cs =>
    match skipLines (cs.length + 1) cs with
    | ']' :: rest => some ([], rest)
    | cs => do
      let (value, rest) ← value? fuel cs
      match skipLines (rest.length + 1) rest with
      | ',' :: rest => (elements? fuel rest).map fun (values, rest) => (value :: values, rest)
      | ']' :: rest => return ([value], rest)
      | _ => none

/-- The names and values of a table in braces, all in one line. -/
def pairs? : Nat → Items → List Char → Option (Items × List Char)
  | 0, _, _ => none
  | fuel + 1, items, cs => do
    let (names, rest) ← path? (cs.length + 1) cs
    match rest with
    | '=' :: rest =>
      let (value, rest) ← value? fuel (skipGap rest)
      let items ← addValue? value names items
      match skipGap rest with
      | ',' :: rest => pairs? fuel items rest
      | '\x7d' :: rest => return (items, rest)
      | _ => none
    | _ => none

end

/-! ## Files -/

/-- A header with one or two brackets: the names in it, and what follows its line. -/
def header? (double : Bool) (cs : List Char) : Option (List String × List Char) := do
  let (names, rest) ← path? (cs.length + 1) cs
  match rest, double with
  | ']' :: ']' :: rest, true => return (names, ← lineEnd? rest)
  | ']' :: rest, false => return (names, ← lineEnd? rest)
  | _, _ => none

/-- Reads the rest of a file into its tables; `current` leads to the one that was opened last. -/
def statements? : Nat → List String → Items → List Char → Option Items
  | 0, _, _, _ => none
  | fuel + 1, current, items, cs =>
    match skipGap cs with
    | [] => some items
    | '\n' :: rest => statements? fuel current items rest
    | '#' :: rest => (lineEnd? ('#' :: rest)).bind (statements? fuel current items)
    | '[' :: '[' :: rest => do
      let (names, rest) ← header? true rest
      let items ← within? (addTable? (names.getLastD "")) names.dropLast items
      statements? fuel names items rest
    | '[' :: rest => do
      let (names, rest) ← header? false rest
      let items ← within? (openTable? (names.getLastD "")) names.dropLast items
      statements? fuel names items rest
    | cs => do
      let (names, rest) ← path? (cs.length + 1) cs
      match rest with
      | '=' :: rest =>
        let (value, rest) ← value? (2 * rest.length + 2) (skipGap rest)
        let items ← within? (addValue? value names) current items
        statements? fuel current items (← lineEnd? rest)
      | _ => none

/-- One kind of line end, and no byte order mark. -/
def prepare (cs : List Char) : List Char :=
  let unify := fun (c : Char) (rest : List Char) => if c == '\r' && rest.head? == some '\n' then rest else c :: rest
  let cs := cs.foldr unify []
  if cs.head? == some (Char.ofNat 0xFEFF) then cs.tail else cs

/-- The tables of a file. -/
def read? (text : String) : Option (List (String × Value)) :=
  let cs := prepare text.toList
  (statements? (cs.length + 1) [] [] cs).map fieldValues

end ContractAudit.Toml
