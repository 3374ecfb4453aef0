import StreamScalar.Value

/-!
# Events

An event is a time stamp and a row of attributes, some of which may be absent.
-/

namespace StreamScalar

/-- A time stamp and positional attributes, `none` marking an absent one. -/
structure Event where
  timestamp : Int64 := 0
  data : List (Option Value) := []
  deriving DecidableEq

namespace Event

def ofValues (timestamp : Int64) (values : List Value) : Event :=
  ⟨timestamp, values.map some⟩

/-- The attribute at a position; past the end every attribute is absent. -/
def get? (e : Event) (position : Nat) : Option Value :=
  (e.data[position]?).join

end Event

end StreamScalar
