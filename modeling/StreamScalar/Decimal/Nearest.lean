import StreamScalar.Decimal.Shortest

/-!
# The double nearest to a decimal number
-/

namespace StreamScalar

/-- The double nearest to a decimal number. Beyond 310 digits before the point it is infinite, and
behind 330 zeros after the point it is zero, so that no larger power of ten is ever computed. -/
def Decimal.nearest (negative : Bool) (d : Decimal) : Binary64 :=
  let places := ((toString d.digits).length : Int) + d.exponent
  if d.digits = 0 ∨ places < -330 then .ofMagnitude negative 0
  else if 310 < places then .infinity negative
  else
    .ofUnits negative (d.digits * Nat.pow 10 d.exponent.toNat * Binary64.unitsPerOne)
      (Nat.pow 10 (-d.exponent).toNat)

end StreamScalar
