import StreamScalar.Binary64

/-!
# Rounding from enclosures

A real number that is enclosed by two rationals is rounded by rounding both: `Enclosure.settle`
narrows an enclosure until its bounds round to one double. That the enclosures of the functions hold
the real values, and so that the results are correctly rounded, is intended and not proved.
-/

namespace StreamScalar

/-- The positive numbers from `lower / divisor` to `upper / divisor` units of a double. -/
structure Enclosure where
  lower : Nat
  upper : Nat
  divisor : Nat

namespace Enclosure

/-- The double that both bounds round to, if they round to one. -/
def rounded? (e : Enclosure) (negative : Bool) : Option Binary64 :=
  let least := Binary64.nearestMagnitude e.lower e.divisor
  if least = Binary64.nearestMagnitude e.upper e.divisor then
    some (.ofMagnitude negative least)
  else none

/-- The double that an enclosure settles on as the count of fraction bits grows. The count doubles at
most `attempts` times; after that the lower bound is taken. -/
def settle (negative : Bool) (enclose : Nat → Enclosure) : (attempts bits : Nat) → Binary64
  | 0, bits => .ofUnits negative (enclose bits).lower (enclose bits).divisor
  | attempts + 1, bits =>
    match (enclose bits).rounded? negative with
    | some x => x
    | none => settle negative enclose attempts (2 * bits)

end Enclosure

end StreamScalar
