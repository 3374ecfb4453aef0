import StreamScalar.Elementary.Enclosure

/-!
# The natural logarithm of a double

`Binary64.ln` aims at the natural logarithm, rounded correctly. A positive number is split as
`m * 2 ^ e` with `m` between two thirds and four thirds, and
`ln (m * 2 ^ e) = 2 * artanh ((m - 1) / (m + 1)) + 2 * e * artanh (1 / 3)`; both inverse hyperbolic
tangents are summed in fixed point, with spare bits that are meant to cover the error.
-/

namespace StreamScalar

namespace FixedPoint

/-- The first `terms` terms of `power / k + power * square / (k + 2) + ...`, where `power` and
`square` carry `bits` bits of fraction. -/
def oddReciprocalSum (bits square : Nat) : (terms k : Nat) → (power : Int) → Int
  | 0, _, _ => 0
  | terms + 1, k, power =>
    power / (k : Int) +
      oddReciprocalSum bits square terms (k + 2) (power * square / (twoPow bits : Int))

/-- How many terms are summed. For arguments of at most one third each term has more than three bits
less than the one before, so the remainder should be below one unit of the last place. -/
def artanhTerms (bits : Nat) : Nat := bits / 3 + 2

/-- The inverse hyperbolic tangent of `a / b`, for a quotient of at most one third in absolute
value, with `bits` bits of fraction. Four units of the last place are allowed for each term. -/
def artanh (bits : Nat) (a : Int) (b : Nat) : Int :=
  let z := a * (twoPow bits : Int) / (b : Int)
  let square := (z * z / (twoPow bits : Int)).toNat
  oddReciprocalSum bits square (artanhTerms bits) 1 z

end FixedPoint

namespace Binary64

/-- The logarithm of `units` units with `bits` bits of fraction, and the error that is allowed for it
in units of the last place. -/
def lnFixedPoint (bits units : Nat) : Int × Nat :=
  let top := Nat.log2 units
  let scale := if 4 * twoPow top < 3 * units then top + 1 else top
  let exponent : Int := scale - 1074
  let reduced := FixedPoint.artanh bits ((units : Int) - (twoPow scale : Int)) (units + twoPow scale)
  let two := FixedPoint.artanh bits 1 3
  (2 * (reduced + exponent * two),
    8 * (FixedPoint.artanhTerms bits + 1) * (exponent.natAbs + 1))

/-- The logarithm of `units` units with its error on both sides, for a number other than one. -/
def lnEnclosure (units bits : Nat) : Enclosure :=
  let (value, error) := lnFixedPoint bits units
  { lower := (value.natAbs - error) * unitsPerOne
    upper := (value.natAbs + error) * unitsPerOne
    divisor := twoPow bits }

/-- The natural logarithm: minus infinity at the zeros, undefined below. -/
def ln (x : Binary64) : Binary64 :=
  match x.read with
  | .nan => x.quiet
  | .infinite negative => if negative then undefined else x
  | .finite negative units =>
    if units = 0 then infinity true
    else if negative then undefined
    else if units = unitsPerOne then zero
    else Enclosure.settle (decide (units < unitsPerOne)) (lnEnclosure units) 4 192

end Binary64

end StreamScalar
