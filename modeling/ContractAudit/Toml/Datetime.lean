import ContractAudit.Numeric.Layout
import ContractAudit.Numeric.Reading
import ContractAudit.Text.Blank

/-!
# Dates and times in TOML

A date, a time of day, or both with an offset. In a configuration they count as their text in a uniform spelling.
-/

namespace ContractAudit.Toml.Datetime

/-- A number of so many digits. -/
def digits? (width : Nat) (cs : List Char) : Option (Nat × List Char) :=
  let front := cs.take width
  if front.length = width && front.all Numeric.isDigit then some (Numeric.digitsValue front, cs.drop width) else none

def mark? (c : Char) : List Char → Option (List Char)
  | d :: cs => if c == d then some cs else none
  | [] => none

/-- A number with zeros in front of it. -/
def padded (width n : Nat) : String :=
  let digits := Numeric.digitChars n
  String.ofList (Numeric.zeros (width - digits.length) ++ digits)

def date? (cs : List Char) : Option (String × List Char) := do
  let (year, cs) ← digits? 4 cs
  let cs ← mark? '-' cs
  let (month, cs) ← digits? 2 cs
  let cs ← mark? '-' cs
  let (day, cs) ← digits? 2 cs
  if 1 ≤ month && month ≤ 12 && 1 ≤ day && day ≤ 31 then
    some (padded 4 year ++ "-" ++ padded 2 month ++ "-" ++ padded 2 day, cs)
  else none

/-- The digits of a fraction of a second: nine of them count, and zeros at the end do not. -/
def fraction? : List Char → Option (String × List Char)
  | '.' :: cs =>
    let digits := cs.takeWhile Numeric.isDigit
    let kept := Text.dropWhileEnd (· == '0') (digits.take 9)
    if digits.isEmpty then none
    else some (String.ofList (if kept.isEmpty then [] else '.' :: kept), cs.drop digits.length)
  | cs => some ("", cs)

def time? (cs : List Char) : Option (String × List Char) := do
  let (hour, cs) ← digits? 2 cs
  let cs ← mark? ':' cs
  let (minute, cs) ← digits? 2 cs
  let cs ← mark? ':' cs
  let (second, cs) ← digits? 2 cs
  let (fraction, cs) ← fraction? cs
  if hour ≤ 24 && minute ≤ 59 && second ≤ 59 then
    some (padded 2 hour ++ ":" ++ padded 2 minute ++ ":" ++ padded 2 second ++ fraction, cs)
  else none

/-- An offset up to the end. -/
def offset? : List Char → Option String
  | [] => some ""
  | ['Z'] | ['z'] => some "Z"
  | sign :: cs => do
    if sign != '+' && sign != '-' then none
    let (hours, cs) ← digits? 2 cs
    let cs ← mark? ':' cs
    let (minutes, cs) ← digits? 2 cs
    if !cs.isEmpty then none
    let sign := if sign == '-' && hours != 0 then "-" else "+"
    return sign ++ padded 2 hours ++ ":" ++ padded 2 minutes

/-- The uniform spelling of a date and time. -/
def read? (cs : List Char) : Option String := do
  if cs[2]? == some ':' then
    let (time, rest) ← time? cs
    if rest.isEmpty then return time else none
  else
    let (date, rest) ← date? cs
    match rest with
    | mark :: more =>
      if mark == 'T' || mark == 't' || mark == ' ' then
        let (time, rest) ← time? more
        return date ++ "T" ++ time ++ (← offset? rest)
      else return date ++ (← offset? rest)
    | [] => return date

end ContractAudit.Toml.Datetime
