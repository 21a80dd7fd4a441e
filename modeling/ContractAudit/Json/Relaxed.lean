import ContractAudit.Json.Basic
import ContractAudit.Json.Reader
import ContractAudit.Numeric.Reading
import ContractAudit.Unicode.Category

/-!
# Relaxed JSON

The grammar of JSON5: comments, names without quotes, strings in single quotes, commas behind the last item, and more
forms of numbers. Whole numbers have 64 bits with a sign; numbers that are not finite become null. Of fields with one
name the last counts.
-/

namespace ContractAudit.Json.Relaxed

open Numeric (Binary)

/-! ## Blanks and comments -/

def isLineEnd (c : Char) : Bool := c == '\n' || c == '\r' || c.toNat == 0x2028 || c.toNat == 0x2029

def isSpace (c : Char) : Bool :=
  c == '\t' || c == '\x0b' || c == '\x0c' || c == ' ' || c.toNat == 0xA0 || c.toNat == 0xFEFF || isLineEnd c ||
    Unicode.Category.spaceSeparator.contains c

/-- The text behind a comment between stars. -/
def blockCommentEnd? : List Char → Option (List Char)
  | '*' :: '/' :: rest => some rest
  | _ :: rest => blockCommentEnd? rest
  | [] => none

/-- Skips blanks and comments. A comment that does not end is no comment. -/
def skip : Nat → List Char → List Char
  | 0, cs => cs
  | fuel + 1, cs =>
    match cs with
    | '/' :: '*' :: rest =>
      match blockCommentEnd? rest with
      | some rest => skip fuel rest
      | none => cs
    | '/' :: '/' :: rest => skip fuel (rest.dropWhile fun c => !isLineEnd c)
    | c :: rest => if isSpace c then skip fuel rest else cs
    | [] => []

/-- The next part of a text. -/
def next (cs : List Char) : List Char := skip (cs.length + 1) cs

/-! ## Texts and names -/

/-- An escape of one character that stands for another. -/
def escapedChar (c : Char) : Char :=
  match c with
  | 'b' => '\x08'
  | 'f' => '\x0c'
  | 'n' => '\n'
  | 'r' => '\r'
  | 't' => '\t'
  | 'v' => '\x0b'
  | _ => c

/-- The units of a text up to its closing quote. -/
def readUnits? (quote : Char) : List Char → Option (List CharUnit × List Char)
  | [] => none
  | '\\' :: 'u' :: a :: b :: c :: d :: rest =>
    (hexUnit? a b c d).bind fun n => (readUnits? quote rest).map fun (units, rest) => (.unit n :: units, rest)
  | '\\' :: 'x' :: a :: b :: rest =>
    (hexDigit? a).bind fun a => (hexDigit? b).bind fun b =>
      (readUnits? quote rest).map fun (units, rest) => (.char (Char.ofNat (a * 16 + b)) :: units, rest)
  | '\\' :: '0' :: rest => (readUnits? quote rest).map fun (units, rest) => (.char '\x00' :: units, rest)
  | '\\' :: '\r' :: '\n' :: rest => readUnits? quote rest
  | '\\' :: e :: rest =>
    if isLineEnd e then readUnits? quote rest
    else if e == 'u' || e == 'x' || Numeric.isDigit e then none
    else (readUnits? quote rest).map fun (units, rest) => (.char (escapedChar e) :: units, rest)
  | c :: rest =>
    if c == quote then some ([], rest)
    else if c == '\\' || isLineEnd c then none
    else (readUnits? quote rest).map fun (units, rest) => (.char c :: units, rest)

def isNameStart (c : Char) : Bool :=
  c == '$' || c == '_' || Unicode.Category.letter.contains c || Unicode.Category.letterNumber.contains c

def isNamePart (c : Char) : Bool :=
  isNameStart c || Unicode.Category.nonspacingMark.contains c || Unicode.Category.diacritic.contains c ||
    Unicode.Category.decimalNumber.contains c || Unicode.Category.connectorPunctuation.contains c ||
    c.toNat == 0x200C || c.toNat == 0x200D

/-- The units of a name without quotes. -/
def readName (isFirst : Bool) : List Char → List CharUnit × List Char
  | '\\' :: 'u' :: a :: b :: c :: d :: rest =>
    match hexUnit? a b c d with
    | some n => let (units, rest) := readName false rest; (.unit n :: units, rest)
    | none => ([], '\\' :: 'u' :: a :: b :: c :: d :: rest)
  | c :: rest =>
    if (if isFirst then isNameStart c else isNamePart c) then
      let (units, rest) := readName false rest
      (.char c :: units, rest)
    else ([], c :: rest)
  | [] => ([], [])

/-- The name of a field, with or without quotes. -/
def readKey? (cs : List Char) : Option (String × List Char) :=
  let found := match cs with
    | '"' :: rest => readUnits? '"' rest
    | '\'' :: rest => readUnits? '\'' rest
    | cs => let (units, rest) := readName true cs; if units.isEmpty then none else some (units, rest)
  found.bind fun (units, rest) => (joinText? units).map (·, rest)

/-! ## Numbers -/

/-- Digits without a zero in front. -/
def wholeDigits (cs : List Char) : List Char :=
  match cs with
  | '0' :: _ => ['0']
  | _ => cs.takeWhile Numeric.isDigit

/-- An exponent with its mark; none if no digits follow. -/
def exponentPart (cs : List Char) : List Char :=
  match cs with
  | mark :: rest =>
    if mark == 'e' || mark == 'E' then
      let sign := rest.takeWhile fun c => c == '+' || c == '-'
      let digits := (rest.drop sign.length).takeWhile Numeric.isDigit
      if 1 < sign.length || digits.isEmpty then [] else mark :: (sign ++ digits)
    else []
  | [] => []

/-- The longest decimal at the front of a text. -/
def decimalPart (cs : List Char) : List Char :=
  let whole := wholeDigits cs
  match cs.drop whole.length with
  | '.' :: rest =>
    let digits := rest.takeWhile Numeric.isDigit
    if whole.isEmpty && digits.isEmpty then []
    else whole ++ '.' :: digits ++ exponentPart (rest.drop digits.length)
  | rest => if whole.isEmpty then [] else whole ++ exponentPart rest

def isHexDigit (c : Char) : Bool := (hexDigit? c).isSome

def hexValue (cs : List Char) : Nat := cs.foldl (fun n c => 16 * n + (hexDigit? c).getD 0) 0

/-- The value of a number without a sign behind it: whole numbers, then other decimals. -/
def decimalValue? (sign : List Char) (cs : List Char) : Option Json :=
  if cs.all Numeric.isDigit then (Numeric.readInt? (sign ++ cs)).map fun n => .number (.int n)
  else match Numeric.binary64.read? (String.ofList (sign ++ cs)) with
    | some value => if value.isFinite then some (.number (.double value)) else none
    | none => none

/-- The number at the front of a text. A plus sign goes only with decimals, and hexadecimal digits with no sign. -/
def readNumber? (cs : List Char) : Option (Json × List Char) :=
  let (sign, rest) := match cs with
    | '-' :: rest => (['-'], rest)
    | '+' :: rest => (['+'], rest)
    | _ => ([], cs)
  match rest with
  | 'I' :: 'n' :: 'f' :: 'i' :: 'n' :: 'i' :: 't' :: 'y' :: rest => if sign == ['+'] then none else some (.null, rest)
  | 'N' :: 'a' :: 'N' :: rest => if sign == ['+'] then none else some (.null, rest)
  | rest =>
    let hex := match rest with
      | '0' :: x :: more => if x == 'x' || x == 'X' then more.takeWhile isHexDigit else []
      | _ => []
    if !hex.isEmpty then
      if sign.isEmpty && hexValue hex ≤ Numeric.maxU32 then
        some (.number (.int (hexValue hex)), rest.drop (hex.length + 2))
      else none
    else
      let digits := decimalPart rest
      if digits.isEmpty then none else (decimalValue? sign digits).map (·, rest.drop digits.length)

/-! ## Values -/

/-- Fields of which each name occurs once, with the value that was given last. -/
def lastFields (fields : List (String × Json)) : List (String × Json) :=
  fields.foldr (fun f rest => if rest.any (·.1 == f.1) then rest else f :: rest) []

mutual

def readValue? : Nat → List Char → Option (Json × List Char)
  | 0, _ => none
  | fuel + 1, cs =>
    match next cs with
    | 'n' :: 'u' :: 'l' :: 'l' :: rest => some (.null, rest)
    | 't' :: 'r' :: 'u' :: 'e' :: rest => some (.bool true, rest)
    | 'f' :: 'a' :: 'l' :: 's' :: 'e' :: rest => some (.bool false, rest)
    | '[' :: rest =>
      match next rest with
      | ']' :: rest => some (.array [], rest)
      | rest => (readItems? fuel rest).map fun (items, rest) => (.array items, rest)
    | '\x7b' :: rest =>
      match next rest with
      | '\x7d' :: rest => some (.object [], rest)
      | rest => (readFields? fuel rest).map fun (fields, rest) => (.object (lastFields fields), rest)
    | c :: rest =>
      if c == '"' || c == '\'' then
        (readUnits? c rest).bind fun (units, rest) => (joinText? units).map fun s => (.string s, rest)
      else readNumber? (c :: rest)
    | [] => none

/-- Items separated by commas, up to the closing bracket, before which a comma may stand. -/
def readItems? : Nat → List Char → Option (List Json × List Char)
  | 0, _ => none
  | fuel + 1, cs =>
    (readValue? fuel cs).bind fun (value, rest) =>
      match next rest with
      | ',' :: rest =>
        match next rest with
        | ']' :: rest => some ([value], rest)
        | rest => (readItems? fuel rest).map fun (items, rest) => (value :: items, rest)
      | ']' :: rest => some ([value], rest)
      | _ => none

def readFields? : Nat → List Char → Option (List (String × Json) × List Char)
  | 0, _ => none
  | fuel + 1, cs =>
    (readKey? (next cs)).bind fun (name, rest) =>
      match next rest with
      | ':' :: rest =>
        (readValue? fuel rest).bind fun (value, rest) =>
          match next rest with
          | ',' :: rest =>
            match next rest with
            | '\x7d' :: rest => some ([(name, value)], rest)
            | rest => (readFields? fuel rest).map fun (fields, rest) => ((name, value) :: fields, rest)
          | '\x7d' :: rest => some ([(name, value)], rest)
          | _ => none
      | _ => none

end

/-- The value of a whole text. -/
def read? (text : String) : Option Json :=
  (readValue? (2 * text.length + 2) text.toList).bind fun (value, rest) =>
    if (next rest).isEmpty then some value else none

end ContractAudit.Json.Relaxed
