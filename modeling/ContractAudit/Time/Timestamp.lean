import ContractAudit.Numeric.Layout
import ContractAudit.Numeric.Reading
import ContractAudit.Text.Blank

/-!
# Timestamps

Instants in universal time, written as RFC 3339 prescribes and read more freely: blanks may stand between the parts,
numbers may have fewer digits, and a year with a sign may have more.
-/

namespace ContractAudit.Time

/-- Days since the first of January 1970, seconds of the day, and nanoseconds. A leap second has at least a whole
second of nanoseconds. -/
structure Timestamp where
  day : Int
  second : Nat
  nanos : Nat
deriving DecidableEq, Repr, Inhabited

/-- The instant from which days are counted. -/
def Timestamp.epoch : Timestamp := ⟨0, 0, 0⟩

/-! ## Calendar -/

structure Date where
  year : Int
  month : Nat
  day : Nat
deriving DecidableEq, Repr

def isLeapYear (year : Int) : Bool := year % 4 == 0 && (year % 100 != 0 || year % 400 == 0)

def daysOfMonth (year : Int) (month : Nat) : Nat :=
  if month == 2 then (if isLeapYear year then 29 else 28)
  else if month == 4 || month == 6 || month == 9 || month == 11 then 30
  else 31

def Date.isValid (d : Date) : Bool :=
  1 ≤ d.month && d.month ≤ 12 && 1 ≤ d.day && d.day ≤ daysOfMonth d.year d.month &&
    -262143 ≤ d.year && d.year ≤ 262142

/-- Days since the first of January 1970. Years are counted from March, so that a leap day is the last of its year;
400 years have 146097 days. -/
def Date.toDay (d : Date) : Int :=
  let year := if d.month ≤ 2 then d.year - 1 else d.year
  let era := year.fdiv 400
  let yearOfEra := year - era * 400
  let month : Int := if d.month ≤ 2 then d.month + 9 else d.month - 3
  let dayOfYear := (153 * month + 2).fdiv 5 + d.day - 1
  let dayOfEra := yearOfEra * 365 + yearOfEra.fdiv 4 - yearOfEra.fdiv 100 + dayOfYear
  era * 146097 + dayOfEra - 719468

def Date.ofDay (day : Int) : Date :=
  let shifted := day + 719468
  let era := shifted.fdiv 146097
  let dayOfEra := shifted - era * 146097
  let yearOfEra := (dayOfEra - dayOfEra.fdiv 1460 + dayOfEra.fdiv 36524 - dayOfEra.fdiv 146096).fdiv 365
  let dayOfYear := dayOfEra - (365 * yearOfEra + yearOfEra.fdiv 4 - yearOfEra.fdiv 100)
  let month := (5 * dayOfYear + 2).fdiv 153
  let dayOfMonth := dayOfYear - (153 * month + 2).fdiv 5 + 1
  let year := yearOfEra + era * 400
  if month < 10 then ⟨year, (month + 3).toNat, dayOfMonth.toNat⟩ else ⟨year + 1, (month - 9).toNat, dayOfMonth.toNat⟩

/-! ## Reading -/

/-- A number of at least one and at most `width` digits, behind any blanks. -/
def number? (width : Nat) (cs : List Char) : Option (Nat × List Char) :=
  let cs := Text.trimStartChars cs
  let digits := (cs.takeWhile Numeric.isDigit).take width
  if digits.isEmpty then none else some (Numeric.digitsValue digits, cs.drop digits.length)

/-- A year: up to four digits, or a sign and any number of digits. -/
def year? (cs : List Char) : Option (Int × List Char) :=
  match Text.trimStartChars cs with
  | '-' :: rest => (digits? rest).map fun (n, rest) => (-(n : Int), rest)
  | '+' :: rest => (digits? rest).map fun (n, rest) => ((n : Int), rest)
  | cs => (number? 4 cs).map fun (n, rest) => ((n : Int), rest)
where
  digits? (cs : List Char) : Option (Nat × List Char) :=
    let digits := cs.takeWhile Numeric.isDigit
    if digits.isEmpty then none else some (Numeric.digitsValue digits, cs.dropWhile Numeric.isDigit)

/-- A mark, behind any blanks. -/
def mark? (c : Char) (cs : List Char) : Option (List Char) :=
  match Text.trimStartChars cs with
  | d :: rest => if c == d then some rest else none
  | [] => none

/-- The fraction of a second behind a point; only nine digits count. -/
def fraction? (cs : List Char) : Option (Nat × List Char) :=
  match cs with
  | '.' :: rest =>
    let digits := rest.takeWhile Numeric.isDigit
    let kept := digits.take 9
    if digits.isEmpty then none
    else some (Numeric.digitsValue kept * Nat.pow 10 (9 - kept.length), rest.dropWhile Numeric.isDigit)
  | _ => some (0, cs)

/-- Two digits directly at the front. -/
def twoDigits? (cs : List Char) : Option (Nat × List Char) :=
  match cs with
  | a :: b :: rest =>
    if Numeric.isDigit a && Numeric.isDigit b then some (Numeric.digitsValue [a, b], rest) else none
  | _ => none

/-- Seconds to the east: `UTC`, `Z`, or hours and minutes with a sign. -/
def offset? (cs : List Char) : Option (Int × List Char) :=
  match cs with
  | 'Z' :: rest | 'z' :: rest => some (0, rest)
  | a :: b :: c :: rest =>
    if [a, b, c].map Char.toLower == ['u', 't', 'c'] then some (0, rest)
    else if a == '+' then hoursAndMinutes? (b :: c :: rest)
    else if a == '-' || a == '−' then
      (hoursAndMinutes? (b :: c :: rest)).map fun (n, rest) => (-n, rest)
    else none
  | _ => none
where
  hoursAndMinutes? (cs : List Char) : Option (Int × List Char) :=
    (twoDigits? cs).bind fun (hours, rest) =>
      (twoDigits? (rest.dropWhile fun c => c == ':' || Text.isBlank c)).bind fun (minutes, rest) =>
        if minutes < 60 && hours < 24 then some (((hours * 3600 + minutes * 60 : Nat) : Int), rest) else none

/-- The instant of a date and a time of day at an offset. Second 60 is a leap second. -/
def Timestamp.ofParts? (date : Date) (hour minute second nanos : Nat) (offset : Int) : Option Timestamp :=
  if date.isValid && hour < 24 && minute < 60 && second ≤ 60 then
    let (second, nanos) := if second == 60 then (59, nanos + 1000000000) else (second, nanos)
    let total : Int := date.toDay * 86400 + ((hour * 3600 + minute * 60 + second : Nat) : Int) - offset
    some ⟨total.fdiv 86400, (total.fmod 86400).toNat, nanos⟩
  else none

def Timestamp.read? (text : String) : Option Timestamp := do
  let (year, rest) ← year? text.toList
  let (month, rest) ← (mark? '-' rest).bind (number? 2)
  let (day, rest) ← (mark? '-' rest).bind (number? 2)
  let rest ← match rest with
    | 'T' :: rest | 't' :: rest | ' ' :: rest => some rest
    | _ => none
  let (hour, rest) ← number? 2 rest
  let (minute, rest) ← (mark? ':' rest).bind (number? 2)
  let (second, rest) ← (mark? ':' rest).bind (number? 2)
  let (nanos, rest) ← fraction? rest
  let (offset, rest) ← offset? (Text.trimStartChars rest)
  if (Text.trimStartChars rest).isEmpty then Timestamp.ofParts? ⟨year, month, day⟩ hour minute second nanos offset
  else none

/-! ## Writing -/

/-- A number with at least `width` digits. -/
def padded (width n : Nat) : String :=
  let cs := Numeric.digitChars n
  String.ofList (Numeric.zeros (width - cs.length) ++ cs)

def yearText (year : Int) : String :=
  if 0 ≤ year && year ≤ 9999 then padded 4 year.natAbs
  else (if year < 0 then "-" else "+") ++ padded 4 year.natAbs

/-- No digits, or three, six or nine of them, whichever is exact. -/
def fractionText (nanos : Nat) : String :=
  if nanos == 0 then ""
  else if nanos % 1000000 == 0 then "." ++ padded 3 (nanos / 1000000)
  else if nanos % 1000 == 0 then "." ++ padded 6 (nanos / 1000)
  else "." ++ padded 9 nanos

/-- Date and time of day, followed by the given mark of universal time. -/
def Timestamp.text (t : Timestamp) (utc : String) : String :=
  let date := Date.ofDay t.day
  let second := t.second % 60 + t.nanos / 1000000000
  yearText date.year ++ "-" ++ padded 2 date.month ++ "-" ++ padded 2 date.day ++ "T" ++
    padded 2 (t.second / 3600) ++ ":" ++ padded 2 (t.second / 60 % 60) ++ ":" ++ padded 2 second ++
    fractionText (t.nanos % 1000000000) ++ utc

end ContractAudit.Time
