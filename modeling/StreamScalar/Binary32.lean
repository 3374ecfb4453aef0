import StreamScalar.Binary64

/-!
# Single precision numbers

A single is its 32 bits. The library stores singles and widens them; it computes with doubles only.
-/

namespace StreamScalar

/-- A single precision number, given by its bits. -/
structure Binary32 where
  bits : UInt32
  deriving DecidableEq, Repr, Inhabited

namespace Binary32

def isNegative (x : Binary32) : Bool :=
  decide (twoPow 31 ≤ x.bits.toNat)

/-- All bits but the sign, read as a number. -/
def magnitude (x : Binary32) : Nat :=
  x.bits.toNat % twoPow 31

/-- The magnitude bits of infinity. -/
def infinityMagnitude : Nat := 255 * twoPow 23

def isNaN (x : Binary32) : Bool :=
  decide (infinityMagnitude < x.magnitude)

/-- The double with the same value: a single is a multiple of `2 ^ -149`. The fraction of a
not-a-number keeps its leading bits. -/
def widen (x : Binary32) : Binary64 :=
  if x.magnitude < infinityMagnitude then
    .ofUnits x.isNegative (unitsOf 23 x.magnitude * twoPow (1074 - 149)) 1
  else if x.magnitude = infinityMagnitude then .infinity x.isNegative
  else
    (Binary64.ofMagnitude x.isNegative
      (Binary64.infinityMagnitude + (x.magnitude - infinityMagnitude) * twoPow 29)).quiet

end Binary32

end StreamScalar
