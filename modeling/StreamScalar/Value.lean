import StreamScalar.AttributeType
import StreamScalar.Binary32

/-!
# Attribute values

A present attribute of an event is a value; an absent one is `none`. The numeric values are a type
of their own, so that what is computed on numbers needs no case for the others.

* `Value.asNumber?_eq_none_iff` : exactly the booleans and strings are no numbers.
-/

namespace StreamScalar

/-- A single attribute value carried by an event. -/
inductive Value where
  | int (n : Int32)
  | long (n : Int64)
  | float (x : Binary32)
  | double (x : Binary64)
  | bool (b : Bool)
  | string (s : String)
  deriving DecidableEq

inductive Number where
  | int (n : Int32)
  | long (n : Int64)
  | float (x : Binary32)
  | double (x : Binary64)
  deriving DecidableEq

def Number.toValue : Number → Value
  | int n => .int n
  | long n => .long n
  | float x => .float x
  | double x => .double x

/-- The double nearest to a number, ties to the even significand. -/
def Number.toBinary64 : Number → Binary64
  | int n => .ofInt n.toInt
  | long n => .ofInt n.toInt
  | float x => x.widen
  | double x => x

namespace Value

def attributeType : Value → AttributeType
  | int _ => .int
  | long _ => .long
  | float _ => .float
  | double _ => .double
  | bool _ => .bool
  | string _ => .string

/-- The number that a value is, if it is one. -/
def asNumber? : Value → Option Number
  | int n => some (.int n)
  | long n => some (.long n)
  | float x => some (.float x)
  | double x => some (.double x)
  | bool _ | string _ => none

theorem asNumber?_eq_none_iff (v : Value) :
    v.asNumber? = none ↔ v.attributeType = .bool ∨ v.attributeType = .string := by
  cases v <;> simp [asNumber?, attributeType]

theorem asNumber?_toValue (n : Number) : n.toValue.asNumber? = some n := by
  cases n <;> rfl

end Value

end StreamScalar
