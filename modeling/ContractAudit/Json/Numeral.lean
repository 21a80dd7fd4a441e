import ContractAudit.Json.Basic
import ContractAudit.Numeric.Reading

/-!
# Numerals

Digits of a number and the value that they are given. Digits are gathered into a whole number of 64 bits; those that
do not fit count as zeros before the point and do not count behind it. The result is scaled by a power of ten in
floating-point arithmetic, so that it may differ from the nearest number in its last bit.
-/

namespace ContractAudit.Json

open Numeric (Binary)

/-- A number as it is written. -/
structure Numeral where
  negative : Bool
  whole : List Char
  fraction : Option (List Char)
  exponent : Option (Bool × List Char)
deriving DecidableEq, Repr

/-- Digits gathered so far, and the power of ten of the last of them. -/
structure Gathered where
  significand : Nat
  exponent : Int

/-- Digits before the point; from the first one that does not fit, each stands for a zero. -/
def gatherWhole (significand : Nat) : List Char → Gathered
  | [] => ⟨significand, 0⟩
  | d :: ds =>
    let next := 10 * significand + Numeric.digitValue d
    if next ≤ Numeric.maxU64 then gatherWhole next ds else ⟨significand, ((d :: ds).length : Int)⟩

/-- Digits behind the point, up to the first one that does not fit. -/
def gatherFraction (g : Gathered) : List Char → Gathered
  | [] => g
  | d :: ds =>
    let next := 10 * g.significand + Numeric.digitValue d
    if next ≤ Numeric.maxU64 then gatherFraction ⟨next, g.exponent - 1⟩ ds else g

def powerOfTen (n : Nat) : Binary := Numeric.binary64.ofDecimal false 1 n

/-- Scales by a power of ten, in steps of at most 308; `none` if the result is infinite. -/
def scaleByTen : Nat → Binary → Int → Option Binary
  | 0, value, _ => some value
  | fuel + 1, value, exponent =>
    if exponent.natAbs ≤ 308 then
      if 0 ≤ exponent then
        let scaled := Numeric.binary64.mul value (powerOfTen exponent.natAbs)
        if scaled.isFinite then some scaled else none
      else some (Numeric.binary64.div value (powerOfTen exponent.natAbs))
    else if value.isZero then some value
    else if 0 ≤ exponent then none
    else scaleByTen fuel (Numeric.binary64.div value (powerOfTen 308)) (exponent + 308)

def negate : Binary → Binary
  | .nan => .nan
  | .infinite s => .infinite !s
  | .finite s m e => .finite (!s) m e

/-- The floating-point number of some gathered digits. -/
def Gathered.double? (g : Gathered) (negative : Bool) : Option Number :=
  (scaleByTen 4 (Numeric.binary64.ofNat g.significand) g.exponent).map fun value =>
    .double (if negative then negate value else value)

def maxI32 : Nat := Nat.pow 2 31 - 1

/-- The number with an exponent. An exponent that is too long leaves only zero, or nothing. -/
def Gathered.withExponent? (g : Gathered) (negative : Bool) (down : Bool) (digits : List Char) : Option Number :=
  let power := Numeric.digitsValue digits
  if maxI32 < power then
    if g.significand != 0 && !down then none
    else some (.double (.finite negative 0 Numeric.binary64.minExponent))
  else (Gathered.mk g.significand (if down then g.exponent - power else g.exponent + power)).double? negative

/-- The value of a numeral; `none` if it is out of range. Whole numbers of 64 bits stay whole, apart from `-0`. -/
def Numeral.value? (n : Numeral) : Option Number :=
  let whole := gatherWhole 0 n.whole
  match n.fraction, n.exponent with
  | none, none =>
    if whole.exponent != 0 then whole.double? n.negative
    else if !n.negative then some (.int whole.significand)
    else if whole.significand == 0 || Nat.pow 2 63 < whole.significand then whole.double? true
    else some (.int (-(whole.significand : Int)))
  | some ds, none => (gatherFraction whole ds).double? n.negative
  | none, some (down, digits) => whole.withExponent? n.negative down digits
  | some ds, some (down, digits) => (gatherFraction whole ds).withExponent? n.negative down digits

/-! ## Reading -/

/-- A point and the digits behind it, if there is a point. -/
def readFraction? : List Char → Option (Option (List Char) × List Char)
  | '.' :: rest =>
    let digits := rest.takeWhile Numeric.isDigit
    if digits.isEmpty then none else some (some digits, rest.dropWhile Numeric.isDigit)
  | rest => some (none, rest)

/-- Is there a minus in front, and what follows it. -/
def splitMinus : List Char → Bool × List Char
  | '-' :: rest => (true, rest)
  | cs => (false, cs)

/-- The same with either sign. -/
def splitSign : List Char → Bool × List Char
  | '+' :: rest => (false, rest)
  | cs => splitMinus cs

/-- A sign and digits behind the mark of an exponent. -/
def readPower? (cs : List Char) : Option ((Bool × List Char) × List Char) :=
  let (down, cs) := splitSign cs
  let digits := cs.takeWhile Numeric.isDigit
  if digits.isEmpty then none else some ((down, digits), cs.dropWhile Numeric.isDigit)

/-- An exponent, if there is the mark of one. -/
def readExponent? : List Char → Option (Option (Bool × List Char) × List Char)
  | [] => some (none, [])
  | mark :: rest =>
    if mark == 'e' || mark == 'E' then (readPower? rest).map fun (power, rest) => (some power, rest)
    else some (none, mark :: rest)

/-- The numeral at the front of a text. There is no sign but a minus, no zero in front of other digits, and a point
has digits on both sides. -/
def Numeral.read? (cs : List Char) : Option (Numeral × List Char) :=
  let (negative, cs) := splitMinus cs
  let whole := cs.takeWhile Numeric.isDigit
  if whole.isEmpty || (1 < whole.length && whole.head? == some '0') then none
  else
    (readFraction? (cs.dropWhile Numeric.isDigit)).bind fun (fraction, rest) =>
      (readExponent? rest).map fun (exponent, rest) => (⟨negative, whole, fraction, exponent⟩, rest)

end ContractAudit.Json
