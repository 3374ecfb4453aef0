import StreamScalar.SnapshotService

/-!
# A component with state

A counter is a component that is no call site, and that can be told to fail.
-/

namespace StreamScalar

/-- A number to be captured, or the reason why it cannot be. -/
structure Counter where
  value : UInt64
  failure : Option String := none
  deriving DecidableEq

namespace Counter

def serializeState (c : Counter) : Except StateError Snapshot :=
  match c.failure with
  | some reason => .error (.encode reason)
  | none => .ok (.encode 1 Codec.u64 c.value)

/-- Takes the captured number; a snapshot that is not one leaves the counter. -/
def deserializeState (c : Counter) (s : Snapshot) : Step Counter (Except StateError Unit) :=
  match s.decode 1 Codec.u64 with
  | .ok value => { answer := .ok (), next := { c with value } }
  | .error e => { answer := .error e, next := c }

instance : StateHolder Counter := ⟨serializeState, deserializeState⟩

end Counter

end StreamScalar
