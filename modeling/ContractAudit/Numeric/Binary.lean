/-!
# Binary floating-point numbers

Numbers of the interchange formats binary64 and binary32, kept exactly: a finite number is a sign, a whole
significand and a power of two. Every operation computes the exact result as a quotient of two natural numbers and
rounds it once, to the nearest number of the format, a tie going to the even significand.
-/

namespace ContractAudit.Numeric

/-- A binary format: bits of the significand, and the least and greatest power of two of its last bit. -/
structure Format where
  precision : Nat
  minExponent : Int
  maxExponent : Int
deriving DecidableEq, Repr

def binary64 : Format := ⟨53, -1074, 971⟩

def binary32 : Format := ⟨24, -149, 104⟩

/-- Not a number, an infinity, or `± significand · 2 ^ exponent`. -/
inductive Binary where
  | nan
  | infinite (negative : Bool)
  | finite (negative : Bool) (significand : Nat) (exponent : Int)
deriving DecidableEq, Repr, Inhabited

/-! ## Rounding a quotient -/

/-- The whole number nearest to `num / den`, a tie going to the even one. -/
def roundDiv (num den : Nat) : Nat :=
  let q := num / den
  let r := num % den
  if den < 2 * r || (2 * r == den && q % 2 == 1) then q + 1 else q

/-- The whole number nearest to `num / den`, a tie going up. -/
def roundDivUp (num den : Nat) : Nat := (2 * num + den) / (2 * den)

/-- Numerator and denominator of `num / den / 2 ^ e`. -/
def scale (num den : Nat) (e : Int) : Nat × Nat :=
  if 0 ≤ e then (num, den * Nat.pow 2 e.toNat) else (num * Nat.pow 2 (-e).toNat, den)

/-- The greatest power of two not above `num / den`, for a positive quotient. -/
def floorLog2 (num den : Nat) : Int :=
  let guess : Int := (Nat.log2 num : Int) - (Nat.log2 den : Int)
  let (n, d) := scale num den guess
  if d ≤ n then guess else guess - 1

/-- The number of the format nearest to `± num / den`. -/
def Format.round (f : Format) (negative : Bool) (num den : Nat) : Binary :=
  if num == 0 then .finite negative 0 f.minExponent
  else
    let e := max f.minExponent (floorLog2 num den - ((f.precision : Int) - 1))
    let (n, d) := scale num den e
    let m := roundDiv n d
    let (m, e) := if m == Nat.pow 2 f.precision then (Nat.pow 2 (f.precision - 1), e + 1) else (m, e)
    if f.maxExponent < e then .infinite negative else .finite negative m e

/-- Zero of the format. -/
def Format.zero (f : Format) : Binary := .finite false 0 f.minExponent

def Format.ofNat (f : Format) (n : Nat) : Binary := f.round false n 1

def Format.ofInt (f : Format) (n : Int) : Binary := f.round (n < 0) n.natAbs 1

/-- The number nearest to `± digits · 10 ^ exponent`. Exponents far outside the range of every format are decided
without computing the power. -/
def Format.ofDecimal (f : Format) (negative : Bool) (digits : Nat) (exponent : Int) : Binary :=
  if digits == 0 then f.round negative 0 1
  else
    let top := exponent + (Nat.log2 digits : Int)
    if 1000 < exponent then .infinite negative
    else if top < -5000 then f.round negative 0 1
    else if 0 ≤ exponent then f.round negative (digits * Nat.pow 10 exponent.toNat) 1
    else f.round negative digits (Nat.pow 10 (-exponent).toNat)

namespace Binary

/-! ## Reading a number -/

def isFinite : Binary → Bool
  | finite .. => true
  | _ => false

def isZero : Binary → Bool
  | finite _ m _ => m == 0
  | _ => false

/-- Numerator and denominator of the magnitude of a finite number. -/
def ratio (significand : Nat) (exponent : Int) : Nat × Nat :=
  scale significand 1 (-exponent)

/-- The sign applied to a natural number. -/
def signed (negative : Bool) (n : Nat) : Int := if negative then -(n : Int) else n

/-- Order of the values; false if one side is not a number. -/
def le : Binary → Binary → Bool
  | nan, _ | _, nan => false
  | infinite true, _ | _, infinite false => true
  | infinite false, _ | _, infinite true => false
  | finite s m e, finite t n g =>
    let (a, b) := ratio m e
    let (c, d) := ratio n g
    signed s (a * d) ≤ signed t (c * b)

/-- The whole part of the magnitude. -/
def truncate (significand : Nat) (exponent : Int) : Nat :=
  let (a, b) := ratio significand exponent
  a / b

/-- The whole number nearest to the magnitude, a tie going up. -/
def nearest (significand : Nat) (exponent : Int) : Nat :=
  let (a, b) := ratio significand exponent
  roundDivUp a b

end Binary

/-! ## Arithmetic -/

/-- The same number in another format. -/
def Format.convert (f : Format) : Binary → Binary
  | .nan => .nan
  | .infinite s => .infinite s
  | .finite s m e =>
    let (a, b) := Binary.ratio m e
    f.round s a b

/-- The sum, rounded once. Only two zeros that are both negative have a negative zero as their sum. -/
def Format.add (f : Format) : Binary → Binary → Binary
  | .nan, _ | _, .nan => .nan
  | .infinite s, .infinite t => if s == t then .infinite s else .nan
  | .infinite s, .finite .. | .finite .., .infinite s => .infinite s
  | .finite s m e, .finite t n g =>
    let (a, b) := Binary.ratio m e
    let (c, d) := Binary.ratio n g
    let sum := Binary.signed s (a * d) + Binary.signed t (c * b)
    f.round (if sum = 0 then s && t else sum < 0) sum.natAbs (b * d)

def Format.mul (f : Format) : Binary → Binary → Binary
  | .nan, _ | _, .nan => .nan
  | .infinite s, .infinite t => .infinite (s != t)
  | .infinite s, .finite t n _ | .finite t n _, .infinite s => if n == 0 then .nan else .infinite (s != t)
  | .finite s m e, .finite t n g =>
    let (a, b) := Binary.ratio (m * n) (e + g)
    f.round (s != t) a b

def Format.div (f : Format) : Binary → Binary → Binary
  | .nan, _ | _, .nan => .nan
  | .infinite _, .infinite _ => .nan
  | .infinite s, .finite t .. => .infinite (s != t)
  | .finite s .., .infinite t => .finite (s != t) 0 f.minExponent
  | .finite s m e, .finite t n g =>
    if n == 0 then (if m == 0 then .nan else .infinite (s != t))
    else
      let (a, b) := Binary.ratio m e
      let (c, d) := Binary.ratio n g
      f.round (s != t) (a * d) (b * c)

/-- The nearest whole number, a tie going away from zero. -/
def Format.whole (f : Format) : Binary → Binary
  | .finite s m e => f.round s (Binary.nearest m e) 1
  | other => other

end ContractAudit.Numeric
