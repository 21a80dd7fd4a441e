import ContractAudit.Numeric.Layout
import ContractAudit.Numeric.Reading
import ContractAudit.Text.Blank

/-!
# Durations

Seconds and nanoseconds, with a reader of amounts such as `1m 30s` or `1.5h` and a short text such as `1.5ms`.
-/

namespace ContractAudit.Time

/-- A span of time; `nanos` is below one second. -/
structure Duration where
  seconds : Nat
  nanos : Nat
deriving DecidableEq, Repr

namespace Duration

def nanosPerSecond : Nat := 1000000000

def zero : Duration := ⟨0, 0⟩

def ofSeconds (n : Nat) : Duration := ⟨n, 0⟩

/-- Whole seconds among the nanoseconds are carried over. -/
def ofParts (seconds nanos : Nat) : Duration := ⟨seconds + nanos / nanosPerSecond, nanos % nanosPerSecond⟩

def isZero (d : Duration) : Bool := d == zero

/-! ## Units -/

/-- A unit of time: in its whole number of seconds, or of nanoseconds if it is shorter than a second. A fraction of an
hour or of a longer unit has to be a whole number of seconds, any other a whole number of nanoseconds. -/
structure TimeUnit where
  seconds : Nat
  nanos : Nat
  /-- The number of nanoseconds of a fraction, for a unit that is divided so far. -/
  fine : Option Nat

def minute : Nat := 60

def hour : Nat := 60 * minute

def day : Nat := 24 * hour

/-- A month is 30.44 days. -/
def month : Nat := 2630016

/-- A year is 365.25 days. -/
def year : Nat := 31557600

def short (nanos : Nat) : TimeUnit := ⟨0, nanos, some nanos⟩

def long (seconds : Nat) : TimeUnit := ⟨seconds, 0, none⟩

/-- The names of all units. -/
def units : List (List String × TimeUnit) :=
  [(["nanos", "nsec", "ns"], short 1),
    (["usec", "us", "µs"], short 1000),
    (["millis", "msec", "ms"], short 1000000),
    (["seconds", "second", "secs", "sec", "s"], ⟨1, 0, some nanosPerSecond⟩),
    (["minutes", "minute", "mins", "min", "m"], ⟨minute, 0, some (minute * nanosPerSecond)⟩),
    (["hours", "hour", "hrs", "hr", "h"], long hour),
    (["days", "day", "d"], long day),
    (["weeks", "week", "wks", "wk", "w"], long (7 * day)),
    (["months", "month", "M"], long month),
    (["years", "year", "yrs", "yr", "y"], long year)]

def unit? (name : String) : Option TimeUnit := (units.find? fun u => u.1.contains name).map (·.2)

/-! ## Reading -/

/-- All numbers on the way have to fit in 64 bits. -/
def bounded? (n : Nat) : Option Nat := if n ≤ Numeric.maxU64 then some n else none

/-- A product divided without remainder. -/
def share? (amount unit parts : Nat) : Option Nat := do
  let product ← bounded? (amount * unit)
  if product % parts = 0 then some (product / parts) else none

def add? (d : Duration) (seconds nanos : Nat) : Option Duration := do
  let nanos ← bounded? (d.nanos + nanos)
  let seconds ← bounded? (seconds + nanos / nanosPerSecond)
  let seconds ← bounded? (d.seconds + seconds)
  return ⟨seconds, nanos % nanosPerSecond⟩

/-- A number of units: its whole part, and the digits behind its point. -/
structure Amount where
  whole : List Char
  fraction : Option (List Char)
  unit : TimeUnit

/-- Adds an amount to a duration. -/
def addAmount? (d : Duration) (a : Amount) : Option Duration := do
  let whole ← bounded? (Numeric.digitsValue a.whole)
  let seconds ← bounded? (whole * a.unit.seconds)
  let nanos ← bounded? (whole * a.unit.nanos)
  let d ← d.add? seconds nanos
  match a.fraction with
  | none => return d
  | some digits =>
    let parts ← bounded? (Nat.pow 10 digits.length)
    let value := Numeric.digitsValue digits
    match a.unit.fine with
    | some unit => d.add? 0 (← share? value unit parts)
    | none => d.add? (← share? value a.unit.seconds parts) 0

def isUnitLetter (c : Char) : Bool := ('a' ≤ c && c ≤ 'z') || ('A' ≤ c && c ≤ 'Z') || c == 'µ'

/-- Blanks may stand between the digits of a number. -/
def isNumberPart (c : Char) : Bool := Numeric.isDigit c || Text.isBlank c

/-- The digits behind a point, of which there is at least one, and what follows. -/
def readFraction? : List Char → Option (Option (List Char) × List Char)
  | '.' :: cs =>
    let digits := (cs.takeWhile isNumberPart).filter Numeric.isDigit
    if digits.isEmpty then none else some (some digits, cs.dropWhile isNumberPart)
  | cs => some (none, cs)

/-- The amount at the front, and what follows. -/
def readAmount? (cs : List Char) : Option (Amount × List Char) := do
  let whole := (cs.takeWhile isNumberPart).filter Numeric.isDigit
  if whole.isEmpty then none
  let (fraction, rest) ← readFraction? (cs.dropWhile isNumberPart)
  let unit ← unit? (String.ofList (rest.takeWhile isUnitLetter))
  return (⟨whole, fraction, unit⟩, Text.trimStartChars (rest.dropWhile isUnitLetter))

/-- Adds all amounts of a text to a duration; every amount takes at least one character. -/
def readAmounts? : Nat → Duration → List Char → Option Duration
  | 0, _, _ => none
  | fuel + 1, d, cs => do
    let (amount, rest) ← readAmount? cs
    let d ← d.addAmount? amount
    if rest.isEmpty then return d else readAmounts? fuel d rest

/-- One or more amounts, which are added up; a bare `0` is no time at all. -/
def read? (text : String) : Option Duration :=
  let cs := Text.trimChars text.toList
  if cs = ['0'] then some zero else readAmounts? (cs.length + 1) zero cs

/-! ## Writing -/

/-- A number of units with the parts of one unit that remain, `places` digits in all, without zeros at the end. -/
def decimalText (whole parts places : Nat) (unit : String) : String :=
  let digits := Numeric.digitChars parts
  let padded := Numeric.zeros (places - digits.length) ++ digits
  let kept := if parts = 0 then [] else '.' :: Text.dropWhileEnd (· == '0') padded
  toString whole ++ String.ofList kept ++ unit

/-- The text in the largest unit, up to seconds, of which there is one. -/
def text (d : Duration) : String :=
  if 0 < d.seconds then decimalText d.seconds d.nanos 9 "s"
  else if 1000000 ≤ d.nanos then decimalText (d.nanos / 1000000) (d.nanos % 1000000) 6 "ms"
  else if 1000 ≤ d.nanos then decimalText (d.nanos / 1000) (d.nanos % 1000) 3 "µs"
  else decimalText d.nanos 0 0 "ns"

end Duration

end ContractAudit.Time
