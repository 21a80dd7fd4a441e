import ContractAudit.Numeric.Shortest

/-!
# Layouts of a number

How digits become text: positionally, in scientific form, or with a fixed number of places. The decisions of each
output format are a `Layout` or a number of places; the digits come from the exact value.
-/

namespace ContractAudit.Numeric

/-- The decimal digits of a natural number. -/
def digitChars (n : Nat) : List Char := Nat.toDigits 10 n

/-- Digits without the zeros at the end, and how many were dropped. -/
def stripZeros (d : Decimal) : List Char × Int :=
  let cs := digitChars d.digits
  let kept := (cs.reverse.dropWhile (· == '0')).reverse
  (kept, d.exponent + ((cs.length - kept.length : Nat) : Int))

/-- How finite numbers are laid out. `plainFrom` and `plainBelow` bound the power of ten of the first digit that is
written positionally, `none` for no bound; `wholeMark` is written behind a whole number. -/
structure Layout where
  plainFrom : Option Int
  plainBelow : Option Int
  wholeMark : String
deriving DecidableEq, Repr

def zeros (n : Nat) : List Char := List.replicate n '0'

/-- Digits `cs` whose last one stands at `10 ^ exponent`, written positionally. -/
def positional (layout : Layout) (cs : List Char) (exponent : Int) : String :=
  let point : Int := (cs.length : Int) + exponent
  if 0 ≤ exponent then String.ofList (cs ++ zeros exponent.toNat) ++ layout.wholeMark
  else if 0 < point then String.ofList (cs.take point.toNat ++ '.' :: cs.drop point.toNat)
  else String.ofList ('0' :: '.' :: (zeros (-point).toNat ++ cs))

/-- One digit before the point, the exponent with its sign. -/
def scientific (cs : List Char) (exponent : Int) : String :=
  let lead : Int := (cs.length : Int) + exponent - 1
  let mantissa := match cs with
    | [] => ['0']
    | [d] => [d]
    | d :: rest => d :: '.' :: rest
  let sign := if lead < 0 then "-" else "+"
  String.ofList mantissa ++ "e" ++ sign ++ String.ofList (digitChars lead.natAbs)

def Layout.isPlain (layout : Layout) (lead : Int) : Bool :=
  layout.plainFrom.all (· ≤ lead) && layout.plainBelow.all (lead < ·)

/-- Text of the magnitude of a finite number. -/
def Layout.magnitude (layout : Layout) (f : Format) (significand : Nat) (exponent : Int) : String :=
  if significand == 0 then "0" ++ layout.wholeMark
  else
    let (cs, k) := stripZeros (f.shortest significand exponent)
    let lead : Int := (cs.length : Int) + k - 1
    if layout.isPlain lead then positional layout cs k else scientific cs k

def signText (negative : Bool) : String := if negative then "-" else ""

/-- Text of any number; numbers that are not finite are `NaN`, `inf` and `-inf`. -/
def Layout.text (layout : Layout) (f : Format) : Binary → String
  | .nan => "NaN"
  | .infinite negative => signText negative ++ "inf"
  | .finite negative m e => signText negative ++ layout.magnitude f m e

/-- Data files: positional from `10 ^ -5` up to below `10 ^ 16`, always with a fraction. -/
def dataLayout : Layout := ⟨some (-5), some 16, ".0"⟩

/-- Messages: always positional, a whole number without a fraction. -/
def messageLayout : Layout := ⟨none, none, ""⟩

/-! ## Fixed places -/

/-- The magnitude with `places` digits behind the point, the exact value rounded with ties to even. -/
def fixedMagnitude (places significand : Nat) (exponent : Int) : String :=
  let (num, den) := Binary.ratio significand exponent
  let cs := digitChars (roundDiv (num * Nat.pow 10 places) den)
  if places == 0 then String.ofList cs
  else
    let cs := zeros (places + 1 - cs.length) ++ cs
    let whole := cs.length - places
    String.ofList (cs.take whole ++ '.' :: cs.drop whole)

def fixed (places : Nat) : Binary → String
  | .nan => "NaN"
  | .infinite negative => signText negative ++ "inf"
  | .finite negative m e => signText negative ++ fixedMagnitude places m e

end ContractAudit.Numeric
