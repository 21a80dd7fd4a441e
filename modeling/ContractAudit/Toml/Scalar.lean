import ContractAudit.Config.Value
import ContractAudit.Json.Reader
import ContractAudit.Toml.Datetime

/-!
# TOML scalars

Texts, numbers and dates. Every reader takes the characters that remain and gives the value with what follows it.
-/

namespace ContractAudit.Toml

open Config (Value)
open Numeric (isDigit)

/-- The characters of names without quotes, and of numbers. -/
def isNameChar (c : Char) : Bool := c.isAlphanum || c == '_' || c == '-'

/-- Characters that may stand in texts and comments. -/
def isTextChar (c : Char) : Bool := c == '\t' || (' ' ≤ c && c.toNat != 0x7F)

/-! ## Texts -/

def isGapOrLineEnd (c : Char) : Bool := c == ' ' || c == '\t' || c == '\n'

/-- The character of hexadecimal digits, so many of them. -/
def codeChar? (width : Nat) (cs : List Char) : Option (Char × List Char) := do
  let digits := cs.take width
  if digits.length < width then none
  let code ← digits.foldlM (fun n c => (Json.hexDigit? c).map (16 * n + ·)) 0
  if code.isValidChar then some (Char.ofNat code, cs.drop width) else none

/-- The character behind a backslash. -/
def escape? : List Char → Option (Char × List Char)
  | '"' :: cs => some ('"', cs)
  | '\\' :: cs => some ('\\', cs)
  | 'b' :: cs => some (Char.ofNat 8, cs)
  | 'f' :: cs => some (Char.ofNat 12, cs)
  | 'n' :: cs => some ('\n', cs)
  | 'r' :: cs => some ('\r', cs)
  | 't' :: cs => some ('\t', cs)
  | 'u' :: cs => codeChar? 4 cs
  | 'U' :: cs => codeChar? 8 cs
  | _ => none

/-- The rest of a text in one line, up to its mark. -/
def lineText? (mark : Char) : Nat → List Char → Option (List Char × List Char)
  | 0, _ => none
  | _, [] => none
  | fuel + 1, c :: cs =>
    if c == mark then some ([], cs)
    else if c == '\\' && mark == '"' then
      (escape? cs).bind fun (d, rest) => (lineText? mark fuel rest).map fun (ds, rest) => (d :: ds, rest)
    else if isTextChar c then (lineText? mark fuel cs).map fun (ds, rest) => (c :: ds, rest)
    else none

/-- What follows a backslash at the end of a line: all blanks and line ends are passed over. -/
def joinLines? (cs : List Char) : Option (List Char) :=
  match cs.dropWhile fun c => c == ' ' || c == '\t' with
  | '\n' :: rest => some (rest.dropWhile isGapOrLineEnd)
  | _ => none

/-- The rest of a text of several lines, up to three marks. One or two more marks belong to the text. -/
def linesText? (mark : Char) : Nat → List Char → Option (List Char × List Char)
  | 0, _ => none
  | _, [] => none
  | fuel + 1, c :: cs =>
    if (List.replicate 3 mark).isPrefixOf (c :: cs) then
      let more := (cs.drop 2).takeWhile (· == mark)
      some (more.take 2, cs.drop (2 + min more.length 2))
    else if c == '\\' && mark == '"' then
      match joinLines? cs with
      | some rest => linesText? mark fuel rest
      | none => (escape? cs).bind fun (d, rest) => (linesText? mark fuel rest).map fun (ds, rest) => (d :: ds, rest)
    else if c == '\n' || isTextChar c then (linesText? mark fuel cs).map fun (ds, rest) => (c :: ds, rest)
    else none

/-- The text behind a quote; it has several lines if there are three quotes. -/
def text? (mark : Char) (cs : List Char) : Option (String × Bool × List Char) :=
  match cs with
  | a :: b :: rest =>
    if a == mark && b == mark then
      let rest := match rest with
        | '\n' :: more => more
        | _ => rest
      (linesText? mark (rest.length + 1) rest).map fun (ds, rest) => (String.ofList ds, true, rest)
    else (lineText? mark (cs.length + 1) cs).map fun (ds, rest) => (String.ofList ds, false, rest)
  | _ => (lineText? mark (cs.length + 1) cs).map fun (ds, rest) => (String.ofList ds, false, rest)

/-! ## Numbers -/

/-- A digit in a base. -/
def isDigitOf (base : Nat) (c : Char) : Bool := ((Json.hexDigit? c).map fun d => decide (d < base)).getD false

/-- Digits with single underscores between them, at the front. -/
def grouped? (base : Nat) (zerosInFront : Bool) (cs : List Char) : Option (List Char × List Char) :=
  let front := cs.takeWhile fun c => isDigitOf base c || c == '_'
  let digits := front.filter (· != '_')
  let parts := Text.splitWhere (· == '_') front
  if front.isEmpty || parts.any List.isEmpty || (!zerosInFront && 1 < digits.length && digits.head? == some '0') then none
  else some (digits, cs.drop front.length)

def baseValue (base : Nat) (digits : List Char) : Nat :=
  digits.foldl (fun n c => base * n + (Json.hexDigit? c).getD 0) 0

def int64? (n : Int) : Option Value := if Numeric.minI64 ≤ n && n ≤ Numeric.maxI64 then some (.int n) else none

def splitSign (cs : List Char) : Bool × List Char :=
  match cs with
  | '-' :: rest => (true, rest)
  | _ => (false, cs)

/-- The exponent at the front, if there is a mark for one. -/
def exponent? (cs : List Char) : Option (List Char × List Char) :=
  match cs with
  | mark :: rest =>
    if mark == 'e' || mark == 'E' then
      let (sign, rest) := match rest with
        | '-' :: more => (['-'], more)
        | '+' :: more => ([], more)
        | _ => ([], rest)
      (grouped? 10 true rest).map fun (digits, rest) => ('e' :: sign ++ digits, rest)
    else some ([], cs)
  | [] => some ([], cs)

/-- A number in base ten without a sign in front; what is not whole has to be finite. -/
def decimal? (negative : Bool) (cs : List Char) : Option (Value × List Char) := do
  let (whole, rest) ← grouped? 10 false cs
  let (fraction, rest) ← match rest with
    | '.' :: more => (grouped? 10 true more).map fun (digits, rest) => ('.' :: digits, rest)
    | _ => some ([], rest)
  let (exponent, rest) ← exponent? rest
  let value ←
    if fraction.isEmpty && exponent.isEmpty then
      let n : Int := Numeric.digitsValue whole
      int64? (if negative then -n else n)
    else
      let sign := if negative then ['-'] else []
      let number ← Numeric.binary64.read? (String.ofList (sign ++ whole ++ fraction ++ exponent))
      if number.isFinite then some (Value.float number) else none
  match rest with
  | c :: _ => if isNameChar c || c == '.' then none else return (value, rest)
  | [] => return (value, rest)

/-- A whole number in another base. -/
def based? (base : Nat) (cs : List Char) : Option (Value × List Char) := do
  let (digits, rest) ← grouped? base true cs
  if (rest.head?.map isNameChar).getD false then none
  return (← int64? (baseValue base digits), rest)

/-- A number with an optional minus. -/
def number? (cs : List Char) : Option (Value × List Char) :=
  let name := String.ofList (cs.takeWhile isNameChar)
  let rest := cs.dropWhile isNameChar
  if name == "inf" then some (.float (.infinite false), rest)
  else if name == "-inf" then some (.float (.infinite true), rest)
  else if name == "nan" || name == "-nan" then some (.float .nan, rest)
  else match cs with
    | '0' :: 'x' :: more => based? 16 more
    | '0' :: 'o' :: more => based? 8 more
    | '0' :: 'b' :: more => based? 2 more
    | _ => let (negative, digits) := splitSign cs; decimal? negative digits

/-- The characters of a date or time at the front. A single blank may stand between a date and a time. -/
def datetimeChars (cs : List Char) : List Char × List Char :=
  let isPart := fun c => isNameChar c || c == ':' || c == '.' || c == '+'
  let front := cs.takeWhile isPart
  match cs.drop front.length with
  | ' ' :: d :: rest =>
    if isDigit d then
      let more := (d :: rest).takeWhile isPart
      (front ++ ' ' :: more, (d :: rest).drop more.length)
    else (front, ' ' :: d :: rest)
  | rest => (front, rest)

/-- Does a name that begins like a number look like a date or a time? -/
def isDatetime (cs : List Char) : Bool :=
  let name := cs.takeWhile isNameChar
  let hasExponent := Text.hasPart ['e', '-'] name || Text.hasPart ['E', '-'] name
  name.contains 'T' || name.contains 't' || (name.tail.contains '-' && !hasExponent) ||
    (cs.drop name.length).head? == some ':'

def datetime? (cs : List Char) : Option (Value × List Char) :=
  let (front, rest) := datetimeChars cs
  (Datetime.read? front).map fun text => (.text text, rest)

/-- A value without quotes or brackets. -/
def bare? (cs : List Char) : Option (Value × List Char) :=
  let name := String.ofList (cs.takeWhile isNameChar)
  if name == "true" then some (.bool true, cs.dropWhile isNameChar)
  else if name == "false" then some (.bool false, cs.dropWhile isNameChar)
  else match cs with
    | '+' :: rest => number? rest
    | c :: _ =>
      if name == "inf" || name == "nan" || c == '-' || isDigit c then
        if isDatetime cs then datetime? cs else number? cs
      else none
    | [] => none

end ContractAudit.Toml
