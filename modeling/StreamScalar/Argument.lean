import StreamScalar.Event

/-!
# Argument expressions

A function argument is an expression whose type is declared before any event flows and whose value,
possibly absent, is found for each event.
-/

namespace StreamScalar

/-- A typed argument expression. -/
inductive Argument where
  | constant (value : Value)
  /-- A typed constant without a value. -/
  | absent (type : AttributeType)
  /-- The attribute at a position of the incoming event. -/
  | attributeAt (position : Nat) (type : AttributeType)
  deriving DecidableEq

namespace Argument

/-- The declared type; a constant has the type of its value. -/
def declaredType : Argument → AttributeType
  | constant value => value.attributeType
  | absent type => type
  | attributeAt _ type => type

/-- The value for an event; an attribute has none without an event. -/
def evaluate (event : Option Event) : Argument → Option Value
  | constant value => some value
  | absent _ => none
  | attributeAt position _ => event.bind (·.get? position)

end Argument

end StreamScalar
