/-!
# Attribute types

The types an attribute of an event, an argument expression or a function result can be declared
with, the numeric ones among them, and their spelling in messages.

* `isNumeric_iff_mem_numeric` : the test and the list of numeric types agree.
-/

namespace StreamScalar

inductive AttributeType where
  | string
  | int
  | long
  | float
  | double
  | bool
  | object
  deriving DecidableEq, Repr, Inhabited

namespace AttributeType

/-- Every type, in the order in which types are numbered when they are encoded. -/
def all : List AttributeType :=
  [string, int, long, float, double, bool, object]

/-- The spelling of a type in messages. -/
def name : AttributeType → String
  | string => "STRING"
  | int => "INT"
  | long => "LONG"
  | float => "FLOAT"
  | double => "DOUBLE"
  | bool => "BOOL"
  | object => "OBJECT"

/-- The types that every function on numbers can take. -/
def numeric : List AttributeType :=
  [int, long, float, double]

/-- The types that hold numbers with a fractional part. -/
def floating : List AttributeType :=
  [float, double]

def isNumeric : AttributeType → Bool
  | int | long | float | double => true
  | string | bool | object => false

theorem isNumeric_iff_mem_numeric (t : AttributeType) : t.isNumeric = true ↔ t ∈ numeric := by
  cases t <;> decide

/-- A set of accepted types as messages write it, such as `INT or LONG`. -/
def joinNames (types : List AttributeType) : String :=
  " or ".intercalate (types.map name)

end AttributeType

end StreamScalar
