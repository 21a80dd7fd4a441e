import ContractAudit.Numeric.Binary

/-!
# Shortest decimals

The decimal with the fewest digits that reads back to a given floating-point number, and of those the nearest to it.
The reals that round to `m · 2 ^ e` form an interval around it, whose ends belong to it exactly if `m` is even. For
one digit, two digits and so on the two decimals around the number are tried.
-/

namespace ContractAudit.Numeric

/-- Decimal digits as a whole number, and the power of ten of the last one. -/
structure Decimal where
  digits : Nat
  exponent : Int
deriving DecidableEq, Repr

/-- Numerator and denominator of `num / den / 10 ^ k`. -/
def scaleTen (num den : Nat) (k : Int) : Nat × Nat :=
  if 0 ≤ k then (num, den * Nat.pow 10 k.toNat) else (num * Nat.pow 10 (-k).toNat, den)

/-- The greatest power of ten not above `num / den`, for a positive quotient. -/
def floorLog10 (num den : Nat) : Int :=
  let guess := (floorLog2 num den * 30103).fdiv 100000
  let above := fun k => let (n, d) := scaleTen num den k; d ≤ n
  if above (guess + 1) then guess + 1 else if above guess then guess else guess - 1

/-- The reals that round to a number: the ends are `low / unit` and `high / unit`. -/
structure Interval where
  low : Nat
  high : Nat
  unit : Nat
  closed : Bool
deriving DecidableEq, Repr

/-- The rounding interval of `significand · 2 ^ exponent`, in quarters of the last bit. Below a power of two the
neighbour is half as far away. -/
def Format.interval (f : Format) (significand : Nat) (exponent : Int) : Interval :=
  let below := if significand == Nat.pow 2 (f.precision - 1) && f.minExponent < exponent then 1 else 2
  let (factor, unit) := scale 1 1 (2 - exponent)
  ⟨(4 * significand - below) * factor, (4 * significand + 2) * factor, unit, significand % 2 == 0⟩

/-- Is `num / den` in the interval? -/
def Interval.holds (i : Interval) (num den : Nat) : Bool :=
  let low := i.low * den
  let mid := num * i.unit
  let high := i.high * den
  if i.closed then low ≤ mid && mid ≤ high else low < mid && mid < high

/-- Distance of two quotients with one denominator. -/
def apart (a b : Nat) : Nat := (a - b) + (b - a)

/-- The best decimal of the grid `10 ^ k` around `num / den`, if one of the two neighbours is in the interval. -/
def gridDecimal? (i : Interval) (num den : Nat) (k : Int) : Option Decimal :=
  let (n, d) := scaleTen num den k
  let lower := n / d
  let upper := lower + 1
  let inside := fun digits => let (a, b) := scaleTen digits 1 (-k); i.holds a b
  match inside lower, inside upper with
  | true, true => if apart (lower * d) n ≤ apart (upper * d) n then some ⟨lower, k⟩ else some ⟨upper, k⟩
  | true, false => some ⟨lower, k⟩
  | false, true => some ⟨upper, k⟩
  | false, false => none

/-- The first grid with a hit, from `k` downwards. -/
def firstGrid (i : Interval) (num den : Nat) : Nat → Int → Decimal
  | 0, k => let (n, d) := scaleTen num den k; ⟨n / d, k⟩
  | tries + 1, k =>
    match gridDecimal? i num den k with
    | some decimal => decimal
    | none => firstGrid i num den tries (k - 1)

/-- The shortest decimal of a positive number of the format. -/
def Format.shortest (f : Format) (significand : Nat) (exponent : Int) : Decimal :=
  let (num, den) := Binary.ratio significand exponent
  firstGrid (f.interval significand exponent) num den 17 (floorLog10 num den)

end ContractAudit.Numeric
