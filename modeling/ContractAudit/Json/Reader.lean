import ContractAudit.Json.Numeral

/-!
# Reading JSON

The grammar of RFC 8259. Half of a surrogate pair makes its text unusable, and a field with such a name makes its
object unusable.
-/

namespace ContractAudit.Json

def isSpace (c : Char) : Bool := c == ' ' || c == '\n' || c == '\t' || c == '\r'

def skipSpace (cs : List Char) : List Char := cs.dropWhile isSpace

/-! ## Texts -/

/-- A character of a text, or a unit of 16 bits that was written by its number. -/
inductive CharUnit where
  | char (c : Char)
  | unit (n : Nat)
deriving DecidableEq, Repr

def hexDigit? (c : Char) : Option Nat :=
  if '0' ≤ c && c ≤ '9' then some (c.toNat - '0'.toNat)
  else if 'a' ≤ c && c ≤ 'f' then some (c.toNat - 'a'.toNat + 10)
  else if 'A' ≤ c && c ≤ 'F' then some (c.toNat - 'A'.toNat + 10)
  else none

def hexUnit? (a b c d : Char) : Option Nat :=
  (hexDigit? a).bind fun a => (hexDigit? b).bind fun b => (hexDigit? c).bind fun c => (hexDigit? d).map fun d =>
    ((a * 16 + b) * 16 + c) * 16 + d

/-- The character of an escape with one letter. -/
def escaped? : Char → Option Char
  | '"' => some '"'
  | '\\' => some '\\'
  | '/' => some '/'
  | 'b' => some '\x08'
  | 'f' => some '\x0c'
  | 'n' => some '\n'
  | 'r' => some '\r'
  | 't' => some '\t'
  | _ => none

/-- The units of a text up to its closing quote. -/
def readUnits? : List Char → Option (List CharUnit × List Char)
  | [] => none
  | '"' :: rest => some ([], rest)
  | '\\' :: 'u' :: a :: b :: c :: d :: rest =>
    (hexUnit? a b c d).bind fun n => (readUnits? rest).map fun (units, rest) => (.unit n :: units, rest)
  | '\\' :: e :: rest =>
    (escaped? e).bind fun c => (readUnits? rest).map fun (units, rest) => (.char c :: units, rest)
  | c :: rest =>
    if c.toNat < 0x20 || c == '\\' then none
    else (readUnits? rest).map fun (units, rest) => (.char c :: units, rest)

def isHighHalf (n : Nat) : Bool := 0xD800 ≤ n && n ≤ 0xDBFF

def isLowHalf (n : Nat) : Bool := 0xDC00 ≤ n && n ≤ 0xDFFF

/-- The characters of some units; `none` if half of a pair stands alone. -/
def joinUnits? : List CharUnit → Option (List Char)
  | [] => some []
  | .char c :: rest => (joinUnits? rest).map (c :: ·)
  | .unit n :: .unit m :: rest =>
    if isHighHalf n then
      if isLowHalf m then
        (joinUnits? rest).map (Char.ofNat (0x10000 + (n - 0xD800) * 0x400 + (m - 0xDC00)) :: ·)
      else none
    else if isLowHalf n then none
    else (joinUnits? (.unit m :: rest)).map (Char.ofNat n :: ·)
  | .unit n :: rest =>
    if isHighHalf n || isLowHalf n then none else (joinUnits? rest).map (Char.ofNat n :: ·)

def joinText? (units : List CharUnit) : Option String := (joinUnits? units).map String.ofList

/-! ## Values -/

/-- An object, unusable if the name of a field is. -/
def objectOf (fields : List (Option String × Json)) : Json :=
  match fields.mapM fun (name, value) => name.map (·, value) with
  | some fields => .object fields
  | none => .unusable

mutual

/-- The value at the front of a text. Every second call consumes a character, which bounds `fuel`. -/
def readValue? : Nat → List Char → Option (Json × List Char)
  | 0, _ => none
  | fuel + 1, cs =>
    match skipSpace cs with
    | 'n' :: 'u' :: 'l' :: 'l' :: rest => some (.null, rest)
    | 't' :: 'r' :: 'u' :: 'e' :: rest => some (.bool true, rest)
    | 'f' :: 'a' :: 'l' :: 's' :: 'e' :: rest => some (.bool false, rest)
    | '"' :: rest =>
      (readUnits? rest).map fun (units, rest) => (((joinText? units).map Json.string).getD .unusable, rest)
    | '[' :: rest =>
      match skipSpace rest with
      | ']' :: rest => some (.array [], rest)
      | rest => (readItems? fuel rest).map fun (items, rest) => (.array items, rest)
    | '\x7b' :: rest =>
      match skipSpace rest with
      | '\x7d' :: rest => some (.object [], rest)
      | rest => (readFields? fuel rest).map fun (fields, rest) => (objectOf fields, rest)
    | cs => (Numeral.read? cs).map fun (n, rest) => ((n.value?.map Json.number).getD .unusable, rest)

/-- Items separated by commas, up to the closing bracket. -/
def readItems? : Nat → List Char → Option (List Json × List Char)
  | 0, _ => none
  | fuel + 1, cs =>
    (readValue? fuel cs).bind fun (value, rest) =>
      match skipSpace rest with
      | ',' :: rest => (readItems? fuel rest).map fun (items, rest) => (value :: items, rest)
      | ']' :: rest => some ([value], rest)
      | _ => none

/-- Fields separated by commas, up to the closing brace. -/
def readFields? : Nat → List Char → Option (List (Option String × Json) × List Char)
  | 0, _ => none
  | fuel + 1, cs =>
    match skipSpace cs with
    | '"' :: rest =>
      (readUnits? rest).bind fun (units, rest) =>
        match skipSpace rest with
        | ':' :: rest =>
          (readValue? fuel rest).bind fun (value, rest) =>
            match skipSpace rest with
            | ',' :: rest =>
              (readFields? fuel rest).map fun (fields, rest) => ((joinText? units, value) :: fields, rest)
            | '\x7d' :: rest => some ([(joinText? units, value)], rest)
            | _ => none
        | _ => none
    | _ => none

end

/-- The value of a whole text. -/
def read? (text : String) : Option Json :=
  (readValue? (2 * text.length + 2) text.toList).bind fun (value, rest) =>
    if (skipSpace rest).isEmpty then some value else none

end ContractAudit.Json
