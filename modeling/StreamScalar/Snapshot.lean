/-!
# Snapshots

The state of a component as bytes under a version that the component chooses.
-/

namespace StreamScalar

/-- Captured state: bytes and the version of their layout. -/
structure Snapshot where
  version : UInt32 := 0
  data : List UInt8 := []
  deriving DecidableEq

namespace Snapshot

/-- What a component without state hands out. -/
def empty : Snapshot := {}

/-- Whether a snapshot is the one of a component without state. -/
def isEmpty (s : Snapshot) : Bool :=
  s.version == 0 && s.data.isEmpty

theorem isEmpty_iff (s : Snapshot) : s.isEmpty = true ↔ s = empty := by
  obtain ⟨version, data⟩ := s
  simp [isEmpty, empty]

end Snapshot

end StreamScalar
