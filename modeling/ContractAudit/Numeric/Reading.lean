import ContractAudit.Numeric.Binary
import ContractAudit.Text.Blank

/-!
# Reading numbers

Whole numbers of a bounded width and decimal floating-point numbers from text. Only the digits `0` to `9` count, and
one sign may stand in front.
-/

namespace ContractAudit.Numeric

def isDigit (c : Char) : Bool := '0' ≤ c && c ≤ '9'

def digitValue (c : Char) : Nat := c.toNat - '0'.toNat

/-- The value of a run of digits. -/
def digitsValue (cs : List Char) : Nat := cs.foldl (fun n c => 10 * n + digitValue c) 0

/-- A nonempty text of digits. -/
def readDigits? (cs : List Char) : Option Nat :=
  if !cs.isEmpty && cs.all isDigit then some (digitsValue cs) else none

/-- A natural number up to `max`, with an optional plus sign. -/
def readNat? (max : Nat) (cs : List Char) : Option Nat :=
  let digits := match cs with
    | '+' :: rest => rest
    | _ => cs
  (readDigits? digits).filter (· ≤ max)

def maxU32 : Nat := Nat.pow 2 32 - 1

def maxU64 : Nat := Nat.pow 2 64 - 1

def minI64 : Int := -Int.pow 2 63

def maxI64 : Int := Int.pow 2 63 - 1

/-- A whole number of 64 bits with sign. -/
def readInt? (cs : List Char) : Option Int :=
  let value := match cs with
    | '-' :: rest => (readDigits? rest).map fun n => -(n : Int)
    | '+' :: rest => (readDigits? rest).map fun n => (n : Int)
    | _ => (readDigits? cs).map fun n => (n : Int)
  value.filter fun n => minI64 ≤ n && n ≤ maxI64

/-- A decimal as it was read: sign, digits as a whole number, power of ten. -/
structure Scientific where
  negative : Bool
  digits : Nat
  exponent : Int
deriving DecidableEq, Repr

/-- The text of an exponent behind its mark: an optional sign and digits. -/
def readExponent? (cs : List Char) : Option Int :=
  match cs with
  | '-' :: rest => (readDigits? rest).map fun n => -(n : Int)
  | '+' :: rest => (readDigits? rest).map fun n => (n : Int)
  | _ => (readDigits? cs).map fun n => (n : Int)

/-- Digits with an optional point among them and an optional exponent; at least one digit. -/
def readMagnitude? (negative : Bool) (cs : List Char) : Option Scientific :=
  let whole := cs.takeWhile isDigit
  let rest := cs.drop whole.length
  let (fraction, rest) := match rest with
    | '.' :: more => (more.takeWhile isDigit, more.dropWhile isDigit)
    | _ => ([], rest)
  if whole.isEmpty && fraction.isEmpty then none
  else
    let digits := digitsValue (whole ++ fraction)
    let shift : Int := -(fraction.length : Int)
    match rest with
    | [] => some ⟨negative, digits, shift⟩
    | mark :: power =>
      if mark == 'e' || mark == 'E' then
        (readExponent? power).map fun n => ⟨negative, digits, n + shift⟩
      else none

/-- A floating-point number: digits, or `inf`, `infinity` and `nan` in any case, with an optional sign. -/
def Format.read? (f : Format) (text : String) : Option Binary :=
  let (negative, cs) := match text.toList with
    | '-' :: rest => (true, rest)
    | '+' :: rest => (false, rest)
    | cs => (false, cs)
  let word := String.ofList (cs.map Char.toLower)
  if word == "inf" || word == "infinity" then some (.infinite negative)
  else if word == "nan" then some .nan
  else (readMagnitude? negative cs).map fun s => f.ofDecimal s.negative s.digits s.exponent

end ContractAudit.Numeric
