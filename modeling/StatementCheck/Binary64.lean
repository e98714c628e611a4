/-!
# Binary floating point numbers

Numbers with 53 binary digits, as they arise from decimals and as they are written again. All
arithmetic is exact, on natural numbers.

## Main definitions

* `Binary64` : a number, as a multiple of a power of two.
* `Binary64.ofDecimal` : the number nearest to a decimal, a tie going to the even neighbour.
* `Binary64.shortest` : the shortest decimal that is nearer to a number than to any other.
* `Binary64.text` : that decimal, written without an exponent.
-/
namespace StatementCheck

/-- A number with 53 binary digits: `mantissa * 2 ^ exponent`, or no finite number. -/
inductive Binary64
  | finite (negative : Bool) (mantissa : Nat) (exponent : Int)
  | infinite (negative : Bool)
  | nan
  deriving DecidableEq

namespace Binary64

/-- The least exponent of a mantissa. -/
def minExponent : Int := -1074

/-- The greatest exponent of a mantissa. -/
def maxExponent : Int := 971

/-- One more than the greatest mantissa. -/
def mantissaBound : Nat := Nat.pow 2 53

/-- A quotient times a power of a base, as a quotient of natural numbers. -/
def scale (base : Nat) (e : Int) (num den : Nat) : Nat × Nat :=
  if 0 ≤ e then (num * Nat.pow base e.toNat, den) else (num, den * Nat.pow base (-e).toNat)

/-- The natural number nearest to a quotient; a tie goes to the even one. -/
def roundDiv (num den : Nat) : Nat :=
  let q := num / den
  let r := num % den
  if 2 * r < den then q
  else if den < 2 * r then q + 1
  else if q % 2 = 0 then q else q + 1

/-- The exponent of the mantissa that is nearest to a positive quotient. -/
def exponentOf (num den : Nat) : Int :=
  let guess : Int := (num.log2 : Int) - (den.log2 : Int) - 53
  let (n, d) := scale 2 (-guess) num den
  max minExponent (if mantissaBound ≤ n / d then guess + 1 else guess)

/-- The number nearest to a positive quotient. -/
def ofQuotient (negative : Bool) (num den : Nat) : Binary64 :=
  let e := exponentOf num den
  let (n, d) := scale 2 (-e) num den
  let m := roundDiv n d
  let (m, e) := if m = mantissaBound then (m / 2, e + 1) else (m, e)
  if maxExponent < e then infinite negative else finite negative m e

/-- Decimals of at least this many digits before the point are infinite, and those that begin this
many places behind it are zero. -/
def decimalRange : Int := 400

/-- The number nearest to `digits * 10 ^ exponent`. -/
def ofDecimal (negative : Bool) (digits : Nat) (exponent : Int) : Binary64 :=
  let top : Int := (Nat.toDigits 10 digits).length + exponent
  if digits = 0 || top < -decimalRange then finite negative 0 minExponent
  else if decimalRange < top then infinite negative
  else
    let (num, den) := scale 10 exponent digits 1
    ofQuotient negative num den

/-- The decimals that read back as `mantissa * 2 ^ exponent` lie between these two quotients, given
over one denominator; the ends belong to them if the mantissa is even. Below a power of two the
distance to the next number is half as great. -/
def interval (mantissa : Nat) (exponent : Int) : Nat × Nat × Nat :=
  let below := if mantissa = mantissaBound / 2 && minExponent < exponent then 1 else 2
  let (unit, den) := scale 2 exponent 1 4
  ((4 * mantissa - below) * unit, (4 * mantissa + 2) * unit, den)

/-- Look for a decimal in the interval of a number on the grid of the multiples of `10 ^ place`, and
then on the finer grids. Of the neighbours of the number that lie in the interval the nearer one is
taken, and the upper one if both are as near. -/
def search (mantissa : Nat) (exponent : Int) : Nat → Int → Nat × Int
  | 0, place => (0, place)
  | grids + 1, place =>
    let (low, high, den) := interval mantissa exponent
    let (unit, _) := scale 2 exponent 1 4
    let value := 4 * mantissa * unit
    let (v, d) := scale 10 (-place) value den
    let (l, _) := scale 10 (-place) low den
    let (h, _) := scale 10 (-place) high den
    let floor := v / d
    let inside (k : Nat) : Bool :=
      if mantissa % 2 = 0 then l ≤ k * d && k * d ≤ h else l < k * d && k * d < h
    match inside floor, inside (floor + 1) with
    | true, true => if 2 * (v % d) < d then (floor, place) else (floor + 1, place)
    | true, false => (floor, place)
    | false, true => (floor + 1, place)
    | false, false => search mantissa exponent grids (place - 1)

/-- Seventeen digits tell any two numbers apart; the search begins three grids higher, since the
number of digits before the point is only estimated. -/
def gridCount : Nat := 21

/-- The shortest decimal that reads back as a positive number, as digits and the place of the last
one. -/
def shortest (mantissa : Nat) (exponent : Int) : Nat × Int :=
  search mantissa exponent gridCount
    (((mantissa.log2 : Int) + exponent) * 30103 / 100000 + 2)

/-- A decimal in positional notation, with at least one digit on either side of the point. -/
def positional (digits : Nat) (place : Int) : String :=
  let ds := Nat.toDigits 10 digits
  if 0 ≤ place then String.ofList (ds ++ List.replicate place.toNat '0') ++ ".0"
  else
    let behind := (-place).toNat
    let ds := List.replicate (behind + 1 - ds.length) '0' ++ ds
    String.ofList (ds.take (ds.length - behind)) ++ "." ++
      String.ofList (ds.drop (ds.length - behind))

/-- The text of a number. -/
def text : Binary64 → String
  | nan => "NaN"
  | infinite negative => if negative then "-inf" else "inf"
  | finite negative mantissa exponent =>
    let (digits, place) := if mantissa = 0 then (0, 0) else shortest mantissa exponent
    let shown := positional digits place
    if negative then "-" ++ shown else shown

end Binary64

end StatementCheck
