/-!
# Double precision numbers

A double is its 64 bits, so that every pattern, the payloads of not-a-numbers included, is a value
of its own. Finite doubles are read exactly as whole multiples of `2 ^ -1074`, the smallest positive
double; a multiple of that size is called a *unit* here. Every operation computes the exact result
in units and rounds once, to the nearest double with ties to the even significand.

* `Binary64.read` : what the bits denote.
* `Binary64.nearestMagnitude a b` : the one rounding step, the magnitude bits of the double nearest
  to `a / b` units.
* `Binary64.roundHalfUp` : the nearest whole number, ties upwards.
-/

namespace StreamScalar

/-- A double precision number, given by its bits. -/
structure Binary64 where
  /-- Sign, eleven bits of exponent and 52 bits of fraction, most significant first. -/
  bits : UInt64
  deriving DecidableEq, Repr, Inhabited

/-- The power of two of an exponent. -/
abbrev twoPow (exponent : Nat) : Nat := Nat.pow 2 exponent

/-- `a / b` rounded to the nearest whole number, a tie going to the even one. -/
def roundQuotient (a b : Nat) : Nat :=
  let q := a / b
  let r := a % b
  if 2 * r < b ∨ (2 * r = b ∧ q % 2 = 0) then q else q + 1

/-- The multiple of the smallest positive number that magnitude bits denote, in a format with
`fractionBits` bits of fraction: subnormal numbers are the multiples themselves, and every further
exponent doubles the spacing. -/
def unitsOf (fractionBits magnitude : Nat) : Nat :=
  let shift := magnitude / twoPow fractionBits - 1
  (magnitude - shift * twoPow fractionBits) * twoPow shift

namespace Binary64

/-- What the bits of a double denote. -/
inductive Reading where
  | nan
  | infinite (negative : Bool)
  | finite (negative : Bool) (units : Nat)
  deriving DecidableEq, Repr

/-- The number one counted in units. -/
def unitsPerOne : Nat := twoPow 1074

/-- The magnitude bits of infinity, the least that denote no number. -/
def infinityMagnitude : Nat := 2047 * twoPow 52

def isNegative (x : Binary64) : Bool :=
  decide (twoPow 63 ≤ x.bits.toNat)

/-- All bits but the sign, read as a number. -/
def magnitude (x : Binary64) : Nat :=
  x.bits.toNat % twoPow 63

/-- The double with the given sign and magnitude bits. -/
def ofMagnitude (negative : Bool) (magnitude : Nat) : Binary64 :=
  ⟨UInt64.ofNat (magnitude + if negative then twoPow 63 else 0)⟩

/-- What a double denotes. -/
def read (x : Binary64) : Reading :=
  if x.magnitude < infinityMagnitude then .finite x.isNegative (unitsOf 52 x.magnitude)
  else if x.magnitude = infinityMagnitude then .infinite x.isNegative
  else .nan

def isNaN (x : Binary64) : Bool :=
  decide (infinityMagnitude < x.magnitude)

/-- The magnitude bits of the double nearest to `a / b` units, ties going to the even significand.
The bits of consecutive magnitudes are consecutive, so a significand that is rounded up past its
last bit carries into the exponent, and past the largest finite double into infinity. -/
def nearestMagnitude (a b : Nat) : Nat :=
  let shift := Nat.log2 (a / b) - 52
  min infinityMagnitude (shift * twoPow 52 + roundQuotient a (b * twoPow shift))

/-- The double nearest to `a / b` units with the given sign. -/
def ofUnits (negative : Bool) (a b : Nat) : Binary64 :=
  ofMagnitude negative (nearestMagnitude a b)

/-- The double nearest to a whole number of units; zero is positive. -/
def ofSignedUnits (n : Int) : Binary64 :=
  ofUnits (decide (n < 0)) n.natAbs 1

/-- The double nearest to a whole number. -/
def ofInt (n : Int) : Binary64 :=
  ofUnits (decide (n < 0)) (n.natAbs * unitsPerOne) 1

def zero : Binary64 := ofMagnitude false 0

def negativeZero : Binary64 := ofMagnitude true 0

def one : Binary64 := ofInt 1

/-- One half, the distance at which rounding to a whole number turns upwards. -/
def half : Binary64 := ofUnits false unitsPerOne 2

def infinity (negative : Bool) : Binary64 := ofMagnitude negative infinityMagnitude

/-- The not-a-number that an operation without a result makes of numbers. -/
def undefined : Binary64 := ⟨0xfff8000000000000⟩

/-- A not-a-number with the bit set that marks it as already reported. -/
def quiet (x : Binary64) : Binary64 := ⟨x.bits ||| 0x0008000000000000⟩

/-- A number of units with a sign. -/
def signed (negative : Bool) (units : Nat) : Int :=
  if negative then -(units : Int) else units

/-- The place of a double in the order of numbers: its value in units, infinity standing where the
next power of two after the largest finite double would. -/
def order? (x : Binary64) : Option Int :=
  if x.isNaN then none else some (signed x.isNegative (unitsOf 52 x.magnitude))

/-- Numeric comparison: no comparison with a not-a-number holds. -/
def le (x y : Binary64) : Bool :=
  match x.order?, y.order? with
  | some a, some b => decide (a ≤ b)
  | _, _ => false

/-- Numeric equality: the zeros are equal, and nothing equals a not-a-number. -/
def equals (x y : Binary64) : Bool :=
  match x.order?, y.order? with
  | some a, some b => decide (a = b)
  | _, _ => false

def neg (x : Binary64) : Binary64 :=
  ofMagnitude (!x.isNegative) x.magnitude

/-- The sum, rounded once. A sum that cancels is positive zero; the first operand that is not a
number is passed on. -/
def add (x y : Binary64) : Binary64 :=
  match x.read, y.read with
  | .nan, _ => x.quiet
  | _, .nan => y.quiet
  | .infinite s, .infinite t => if s = t then x else undefined
  | .infinite _, .finite _ _ => x
  | .finite _ _, .infinite _ => y
  | .finite s a, .finite t b =>
    let sum := signed s a + signed t b
    if sum = 0 then (if s && t then negativeZero else zero) else ofSignedUnits sum

/-- The difference, rounded once. -/
def sub (x y : Binary64) : Binary64 :=
  if x.isNaN then x.quiet else if y.isNaN then y.quiet else x.add y.neg

/-- The quotient, rounded once. -/
def div (x y : Binary64) : Binary64 :=
  match x.read, y.read with
  | .nan, _ => x.quiet
  | _, .nan => y.quiet
  | .infinite _, .infinite _ => undefined
  | .infinite s, .finite t _ => infinity (s != t)
  | .finite s _, .infinite t => ofMagnitude (s != t) 0
  | .finite s a, .finite t b =>
    if b = 0 then (if a = 0 then undefined else infinity (s != t))
    else ofUnits (s != t) (a * unitsPerOne) b

/-- The largest whole number not above a double, with the sign of the double. -/
def floor (x : Binary64) : Binary64 :=
  match x.read with
  | .nan => x.quiet
  | .infinite _ => x
  | .finite s a =>
    let whole := if s then (a + (unitsPerOne - 1)) / unitsPerOne else a / unitsPerOne
    ofUnits s (whole * unitsPerOne) 1

/-- The nearest whole number, a tie going up. The distance to the floor is compared with one half,
since adding one half to the number itself could round. -/
def roundHalfUp (x : Binary64) : Binary64 :=
  let below := x.floor
  if half.le (x.sub below) then below.add one else below

/-- The whole part, cut to the bounds; not a number becomes zero. -/
def truncateInto (least greatest : Int) (x : Binary64) : Int :=
  match x.read with
  | .nan => 0
  | .infinite s => if s then least else greatest
  | .finite s a => max least (min greatest (signed s (a / unitsPerOne)))

/-- The whole part as a 32-bit number, cut to its bounds. -/
def toInt32 (x : Binary64) : Int32 :=
  Int32.ofInt (x.truncateInto Int32.minValue.toInt Int32.maxValue.toInt)

/-- The whole part as a 64-bit number, cut to its bounds. -/
def toInt64 (x : Binary64) : Int64 :=
  Int64.ofInt (x.truncateInto Int64.minValue.toInt Int64.maxValue.toInt)

end Binary64

end StreamScalar
