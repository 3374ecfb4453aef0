import StreamScalar.Elementary.Logarithm

/-!
# The hyperbolic sine of a double

`Binary64.sinh` aims at the hyperbolic sine, rounded correctly. Up to one it is the number times the
power series of `sinh x / x`; above, it is half the difference of the exponentials of the number
and its negative, the exponential being split as `2 ^ k * exp r` with `r` below `ln 2`.
-/

namespace StreamScalar

namespace FixedPoint

/-- The first `terms` terms of `t + t * x / d k + t * x * x / (d k * d (k + 1)) + ...`, where `t` is
`term` and `d` is `divisor`; `term` and `x` carry `bits` bits of fraction, and every division rounds
down. -/
def powerSeries (bits x : Nat) (divisor : Nat → Nat) : (terms k term : Nat) → Nat
  | 0, _, _ => 0
  | terms + 1, k, term =>
    term + powerSeries bits x divisor terms (k + 1) (term * x / twoPow bits / divisor k)

/-- How many terms of the series below are summed, meant to leave less than one unit of the last
place. -/
def seriesTerms (bits : Nat) : Nat := bits / 3 + 8

/-- The exponential of `r` from below, both with `bits` bits of fraction, for `r` of at most one. -/
def exp (bits r : Nat) : Nat :=
  powerSeries bits r id (seriesTerms bits) 1 (twoPow bits)

/-- The quotient `sinh x / x` from below, for `x` of at most one whose square is given, both with
`bits` bits of fraction. -/
def sinhRatio (bits square : Nat) : Nat :=
  powerSeries bits square (fun k => 2 * k * (2 * k + 1)) (seriesTerms bits) 1 (twoPow bits)

end FixedPoint

namespace Binary64

/-- The hyperbolic sine of at most one. Four units of the last place are allowed for each term. -/
def sinhSmallEnclosure (units bits : Nat) : Enclosure :=
  let square := units * units * twoPow bits / (unitsPerOne * unitsPerOne)
  let ratio := FixedPoint.sinhRatio bits square
  { lower := units * ratio
    upper := units * (ratio + 4 * (FixedPoint.seriesTerms bits + 1))
    divisor := twoPow bits }

/-- The hyperbolic sine of more than one, at both ends of what is allowed for the exponential. With
`e = exp r`, it is `(e ^ 2 * 4 ^ k - 1) / (e * 2 ^ (k + 1))`, which grows with `e`. -/
def sinhLargeEnclosure (units bits : Nat) : Enclosure :=
  let x := units * twoPow bits / unitsPerOne
  let two := (2 * FixedPoint.artanh bits 1 3).toNat
  let k := x / two
  let slack := 8 * (FixedPoint.artanhTerms bits + 1) * (k + 1)
  let r := x % two
  let exponential := FixedPoint.exp bits (r - slack)
  let greatest := exponential + 8 * slack + 4 * (FixedPoint.seriesTerms bits + 1)
  let numerator := fun e : Nat => (e * e * twoPow (2 * k) - twoPow (2 * bits)) * unitsPerOne
  let denominator := fun e : Nat => e * twoPow (k + 1 + bits)
  { lower := numerator exponential * denominator greatest
    upper := numerator greatest * denominator exponential
    divisor := denominator exponential * denominator greatest }

/-- The hyperbolic sine; from 711 on it overflows. -/
def sinh (x : Binary64) : Binary64 :=
  match x.read with
  | .nan => x.quiet
  | .infinite _ => x
  | .finite negative units =>
    if units = 0 then x
    else if units ≤ unitsPerOne then
      Enclosure.settle negative (sinhSmallEnclosure units) 4 192
    else if units < 711 * unitsPerOne then
      Enclosure.settle negative (sinhLargeEnclosure units) 4 192
    else infinity negative

end Binary64

end StreamScalar
