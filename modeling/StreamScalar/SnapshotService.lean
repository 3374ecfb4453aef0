import StreamScalar.CallSite
import StreamScalar.Codec.Types
import StreamScalar.Store
import StreamScalar.Text.Quoted

/-!
# The snapshot service

A service captures the components registered with it as one revision of its application and restores
them from a revision. Components live in cells, and a registration names a cell, so that one
component may stand under several names and is still one component.

* `SnapshotService.persist` : all components or nothing.
* `SnapshotService.restoreRevision` : each component known to the revision, until one fails.
-/

namespace StreamScalar

/-- A component whose state can be captured and restored. -/
class StateHolder (H : Type) where
  serializeState : H → Except StateError Snapshot
  deserializeState : H → Snapshot → Step H (Except StateError Unit)

instance {F : Type} [ScalarFunction F] : StateHolder (CallSite F) where
  serializeState := CallSite.serializeState
  deserializeState := CallSite.deserializeState

/-- The components of a host by the names of their cells. -/
abbrev Cells (κ H : Type) := κ → H

def Cells.set {κ H : Type} [DecidableEq κ] (cells : Cells κ H) (cell : κ) (holder : H) :
    Cells κ H :=
  fun c => if c = cell then holder else cells c

/-- The order in which the rows of a map are visited: any arrangement of them, which may differ from
one map to another. -/
structure Traversal (α : Type) where
  arrange : List α → List α
  perm : ∀ rows, (arrange rows).Perm rows

def Traversal.asListed {α : Type} : Traversal α := ⟨id, fun _ => .refl _⟩

/-- What a checkpoint holds: the snapshot of every component by its registered name. -/
abbrev Checkpoint := Table String Snapshot

/-- A checkpoint is the list of its rows in some order; of rows with one name the last counts. -/
def Codec.checkpointRows : Codec (List (String × Snapshot)) :=
  .list (text.pair snapshot)

structure PersistReport where
  revision : Revision
  count : Nat
  components : List String
  deriving DecidableEq

/-- A coordinator of checkpoints for one application; `κ` are the names of cells. -/
structure SnapshotService (κ : Type) where
  app : String
  holders : Table String κ := .empty

namespace SnapshotService

variable {κ H : Type}

def ofApp (app : String) : SnapshotService κ := { app }

/-- The text of a service for diagnosis. -/
def describe (service : SnapshotService κ) : String :=
  "SnapshotService \x7b eventflux_app_id: " ++ Text.quote service.app ++ " \x7d"

/-- Registers the component of a cell under a name, in place of the one registered before. -/
def register (service : SnapshotService κ) (id : String) (cell : κ) :
    Step (SnapshotService κ) Unit :=
  let holders := service.holders.insert id cell
  { answer := ()
    next := { service with holders }
    log := [⟨.info, s!"SnapshotService: Registering state holder: {id}"⟩,
      ⟨.debug, s!"SnapshotService: Total registered holders: {holders.size}"⟩] }

variable [StateHolder H]

/-- The snapshots of registered components in the order given, or the first failure. -/
def capture (cells : Cells κ H) :
    List (String × κ) → Except (String × StateError) (List (String × Snapshot))
  | [] => .ok []
  | (id, cell) :: rest =>
    match StateHolder.serializeState (cells cell) with
    | .error e => .error (id, e)
    | .ok snapshot => (capture cells rest).map ((id, snapshot) :: ·)

/-- Captures all registered components and saves them as a new revision. If one of them fails,
nothing is saved. `visit` is the order in which the components are visited, `write` the order in
which their snapshots are written. -/
def persist (service : SnapshotService κ) (cells : Cells κ H)
    (visit : Traversal (String × κ)) (write : Traversal (String × Snapshot))
    (revision : Revision) (store : Store) : Step Store (Except PersistenceError PersistReport) :=
  match capture cells (visit.arrange service.holders.rows) with
  | .error (id, e) =>
    { answer := .error (.componentFailed id e), next := store
      log := [⟨.error, s!"Failed to serialize state for {id}: {e.message}"⟩] }
  | .ok captured =>
    let data := Codec.checkpointRows.encode (write.arrange captured)
    let saved := store.save service.app revision data
    { answer := .ok ⟨revision, captured.length, captured.map (·.1)⟩, next := saved.next
      log := saved.log ++ [⟨.info,
        s!"Persisted revision {revision.text} for {service.app} ({captured.length} components)"⟩] }

/-- Captures under the name of the next number. A failure uses up none. -/
def persistNext (service : SnapshotService κ) (cells : Cells κ H)
    (visit : Traversal (String × κ)) (write : Traversal (String × Snapshot))
    (naming : Nat → Revision) (captures : Nat) (store : Store) :
    Step (Store × Nat) (Except PersistenceError PersistReport) :=
  let saved := service.persist cells visit write (naming captures) store
  let used := match saved.answer with
    | .ok _ => captures + 1
    | .error _ => captures
  saved.lift fun store => (store, used)

/-- Restores the registered components from the rows of a checkpoint in the order given, until one
of them fails. Rows of unknown names are passed over. -/
def restoreRows [DecidableEq κ] (holders : Table String κ) (cells : Cells κ H) :
    List (String × Snapshot) → Step (Cells κ H) (Except StateError Unit)
  | [] => { answer := .ok (), next := cells }
  | (id, snapshot) :: rest =>
    match holders.get? id with
    | none =>
      (restoreRows holders cells rest).after
        [⟨.info, s!"No state holder found for component: {id}"⟩]
    | some cell =>
      let restored := StateHolder.deserializeState (cells cell) snapshot
      let cells := cells.set cell restored.next
      match restored.answer with
      | .error e =>
        -- the components before this one stay restored
        { answer := .error e, next := cells
          log := restored.log ++
            [⟨.error, s!"Failed to restore state for {id}: {e.message}"⟩] }
      | .ok () =>
        (restoreRows holders cells rest).after
          (restored.log ++ [⟨.info, s!"Restored state for component: {id}"⟩])

def checkpoint (service : SnapshotService κ) (store : Store) (revision : Revision) :
    Except PersistenceError Checkpoint :=
  match store.load service.app revision with
  | none => .error (.revisionNotFound revision)
  | some data =>
    match Codec.checkpointRows.decodeFirst data with
    | .error cause => .error (.malformedRevision cause)
    | .ok rows => .ok (.ofList rows)

/-- Restores the registered components from a revision, in the order of a traversal. -/
def restoreRevision [DecidableEq κ] (service : SnapshotService κ) (cells : Cells κ H)
    (visit : Traversal (String × Snapshot)) (store : Store) (revision : Revision) :
    Step (Cells κ H) (Except Error Unit) :=
  match service.checkpoint store revision with
  | .error e => { answer := .error (.persistence e), next := cells }
  | .ok found =>
    (restoreRows service.holders cells (visit.arrange found.rows)).map
      fun answer => answer.mapError Error.state

/-- Restores the last revision of the application and answers which one that is, or `none` if there
is none. -/
def restoreLastRevision [DecidableEq κ] (service : SnapshotService κ) (cells : Cells κ H)
    (visit : Traversal (String × Snapshot)) (store : Store) :
    Step (Cells κ H) (Except Error (Option Revision)) :=
  match store.lastRevision service.app with
  | none => { answer := .ok none, next := cells }
  | some revision =>
    (service.restoreRevision cells visit store revision).map
      fun answer => answer.map fun () => some revision

end SnapshotService

end StreamScalar
