import StreamScalar.Binary64

/-!
# Shortest decimal text of a double

A double is written with the fewest digits that read back to the same double, the nearest to it of
those, and always positionally, without an exponent.

* `Decimal.shortest` : the digits and the power of ten.
* `Binary64.text` : the text, with the spellings of zero, infinity and not a number.
-/

namespace StreamScalar

/-- The decimal number `digits * 10 ^ exponent`. -/
structure Decimal where
  digits : Nat
  exponent : Int
  deriving DecidableEq, Repr

/-- A number between two bounds, all three over the common denominator `unit`. -/
structure RoundingInterval where
  lower : Nat
  value : Nat
  upper : Nat
  unit : Nat
  /-- Whether the bounds themselves belong to the interval. -/
  closed : Bool

namespace RoundingInterval

/-- The numbers that round to the double with nonzero magnitude bits `m`: those up to half way to
its two neighbours, the half ways included exactly if the significand is even. -/
def ofMagnitude (m : Nat) : RoundingInterval where
  lower := unitsOf 52 (m - 1) + unitsOf 52 m
  value := 2 * unitsOf 52 m
  upper := unitsOf 52 m + unitsOf 52 (m + 1)
  unit := 2 * Binary64.unitsPerOne
  closed := m % 2 == 0

/-- Whether `a / (scale * unit)` lies in the interval. -/
def contains (i : RoundingInterval) (scale a : Nat) : Bool :=
  if i.closed then decide (i.lower * scale ≤ a ∧ a ≤ i.upper * scale)
  else decide (i.lower * scale < a ∧ a < i.upper * scale)

/-- The multiple of `10 ^ exponent` in the interval that is nearest to its value, if there is one.
Only the two neighbours of the value on that grid need a test; of two equally near ones the larger
is taken. -/
def gridPoint? (i : RoundingInterval) (exponent : Int) : Option Nat :=
  let scale := Nat.pow 10 (-exponent).toNat
  let step := Nat.pow 10 exponent.toNat * i.unit
  let value := i.value * scale
  let below := value / step
  let above := below + 1
  match i.contains scale (below * step), i.contains scale (above * step) with
  | true, true => some (if value - below * step < above * step - value then below else above)
  | true, false => some below
  | false, true => some above
  | false, false => none

end RoundingInterval

namespace Decimal

/-- The powers of ten of the grids to try, coarsest first. -/
def gridExponents : List Int :=
  (List.range 640).map fun n : Nat => 309 - (n : Int)

/-- The shortest decimal number that reads back to the double with nonzero magnitude bits `m`: the
point on the coarsest grid that has one. Each double lies exactly on the grid of `10 ^ -1074`. -/
def shortest (m : Nat) : Decimal :=
  let interval := RoundingInterval.ofMagnitude m
  let point := gridExponents.findSome? fun e => (interval.gridPoint? e).map (Decimal.mk · e)
  point.getD ⟨unitsOf 52 m * Nat.pow 5 1074, -1074⟩

/-- Positional notation: no exponent, and no point in a whole number. -/
def positional (d : Decimal) : String :=
  let digits := toString d.digits
  if 0 ≤ d.exponent then digits ++ String.ofList (List.replicate d.exponent.toNat '0')
  else
    let places := (-d.exponent).toNat
    let padded := List.replicate (places + 1 - digits.length) '0' ++ digits.toList
    let whole := padded.length - places
    String.ofList (padded.take whole) ++ "." ++ String.ofList (padded.drop whole)

end Decimal

namespace Binary64

/-- The text of a double in messages. -/
def text (x : Binary64) : String :=
  let sign := if x.isNegative then "-" else ""
  if x.isNaN then "NaN"
  else if x.magnitude = infinityMagnitude then sign ++ "inf"
  else if x.magnitude = 0 then sign ++ "0"
  else sign ++ (Decimal.shortest x.magnitude).positional

end Binary64

end StreamScalar
