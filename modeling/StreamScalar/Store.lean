import StreamScalar.Revision
import StreamScalar.Step
import StreamScalar.Table

/-!
# The revision store

Revisions of applications, kept in memory: bytes by application and revision, and for each
application the revision saved last. Deleting that revision leaves the application without a last
one until it saves again.
-/

namespace StreamScalar

/-- Saved revisions and the last one of each application. -/
structure Store where
  revisions : Table String (Table Revision (List UInt8)) := .empty
  last : Table String Revision := .empty
  deriving Inhabited

namespace Store

def empty : Store := {}

/-- Saves bytes as a revision, which becomes the last of its application. -/
def save (store : Store) (app : String) (revision : Revision) (data : List UInt8) : Step Store Unit where
  answer := ()
  next :=
    { revisions :=
        store.revisions.insert app (((store.revisions.get? app).getD .empty).insert revision data)
      last := store.last.insert app revision }
  log := [⟨.debug, s!"Saved revision {app}/{revision.text} ({data.length} bytes)"⟩]

def load (store : Store) (app : String) (revision : Revision) : Option (List UInt8) :=
  (store.revisions.get? app).bind (·.get? revision)

def lastRevision (store : Store) (app : String) : Option Revision :=
  store.last.get? app

def delete (store : Store) (app : String) (revision : Revision) : Store where
  revisions :=
    match store.revisions.get? app with
    | some saved => store.revisions.insert app (saved.erase revision)
    | none => store.revisions
  -- no older revision takes the place of the last one
  last := if store.last.get? app = some revision then store.last.erase app else store.last

def clear (store : Store) (app : String) : Store where
  revisions := store.revisions.erase app
  last := store.last.erase app

end Store

end StreamScalar
