import StreamScalar.Value

/-!
# Numeric coercion

Every function on numbers takes its arguments through `coerceToDouble`, so that all of them widen
integers and singles in the same way.
-/

namespace StreamScalar

/-- Why a value could not be taken as a double. -/
inductive CoercionError where
  | absent
  | nonNumericType (declared : AttributeType)
  | nonNumericValue (found : AttributeType)
  deriving DecidableEq

def CoercionError.message : CoercionError → String
  | absent => "value is absent"
  | nonNumericType declared => s!"declared type {declared.name} is not numeric"
  | nonNumericValue found => s!"value of type {found.name} is not numeric"

/-- A value of a declared type as a double. The declared type is judged first, then presence, then
the value's own type; the double does not depend on the declared type. -/
def coerceToDouble (value : Option Value) (declared : AttributeType) :
    Except CoercionError Binary64 :=
  if declared.isNumeric then
    match value with
    | none => .error .absent
    | some v =>
      match v.asNumber? with
      | some n => .ok n.toBinary64
      | none => .error (.nonNumericValue v.attributeType)
  else .error (.nonNumericType declared)

end StreamScalar
