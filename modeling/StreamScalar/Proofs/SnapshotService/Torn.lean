import StreamScalar.Host.Counter
import StreamScalar.Proofs.Codec.Malformed
import StreamScalar.Proofs.SnapshotService

/-!
# Torn checkpoints

The bytes of a capture say how many rows there are and how long each of their parts is, so they cannot
end early without being found out, and what stands behind them does not matter. Both are properties of
the layout of rows: no encoding begins with another one, and one is read whatever follows it.

* `restoreRevision_of_torn` : what a restore makes of the bytes of a capture that were cut or extended.
-/

namespace StreamScalar

theorem Codec.ExactLayout.checkpointRows : Codec.ExactLayout Codec.checkpointRows :=
  (Codec.ExactLayout.text.pair .snapshot).list

namespace SnapshotService

open Codec (checkpointRows)

variable {κ H : Type} [StateHolder H] {service : SnapshotService κ} {cells : Cells κ H}
  {visit : Traversal (String × κ)} {write : Traversal (String × Snapshot)} {revision : Revision}
  {store : Store} {report : PersistReport} {whole : List UInt8}

theorem exists_error_of_torn
    (h : (service.persist cells visit write revision store).answer = .ok report)
    (hwhole : (service.persist cells visit write revision store).next.load service.app revision =
      some whole) (hsize : whole.length < 2 ^ 64) {torn : List UInt8} (hfront : torn <+: whole)
    (hne : torn ≠ whole) : ∃ cause, checkpointRows.decodeFirst torn = .error cause := by
  obtain ⟨captured, -, rfl⟩ := exists_encoded h hwhole
  obtain ⟨cause, hcause⟩ := Codec.ExactLayout.checkpointRows.exists_error_of_cut hsize hfront hne
  refine ⟨cause, ?_⟩
  rw [Codec.decodeFirst, hcause]
  rfl

/-- **Torn checkpoints are detected**, wherever the cut is and in whatever order the rows were written:
no service restores anything from them. Bytes that follow a whole checkpoint are ignored. -/
theorem restoreRevision_of_torn
    (h : (service.persist cells visit write revision store).answer = .ok report)
    (hwhole : (service.persist cells visit write revision store).next.load service.app revision =
      some whole) (hsize : whole.length < 2 ^ 64) {κ' H' : Type} [DecidableEq κ'] [StateHolder H']
    (later : SnapshotService κ') (laterCells : Cells κ' H') (order : Traversal (String × Snapshot)) :
    (∀ torn, torn <+: whole → torn ≠ whole → ∀ laterStore laterRevision,
      laterStore.load later.app laterRevision = some torn →
        ∃ cause, later.restoreRevision laterCells order laterStore laterRevision =
          { answer := .error (.persistence (.malformedRevision cause)), next := laterCells }) ∧
    ∃ found : Checkpoint,
      (∀ id snapshot, found.get? id = some snapshot ↔
        ∃ cell, service.holders.get? id = some cell ∧
          StateHolder.serializeState (cells cell) = .ok snapshot) ∧
      ∀ rest laterStore laterRevision,
        laterStore.load later.app laterRevision = some (whole ++ rest) →
          later.checkpoint laterStore laterRevision = .ok found ∧
          ∀ wholeStore wholeRevision, wholeStore.load later.app wholeRevision = some whole →
            later.restoreRevision laterCells order laterStore laterRevision =
              later.restoreRevision laterCells order wholeStore wholeRevision := by
  constructor
  · intro torn hfront hne laterStore laterRevision hload
    obtain ⟨cause, hcause⟩ := exists_error_of_torn h hwhole hsize hfront hne
    refine ⟨cause, ?_⟩
    simp only [restoreRevision, checkpoint, hload, hcause]
  · obtain ⟨found, hfound, hread⟩ := checkpoint_of_persist_append h hwhole hsize
    refine ⟨found, hfound, fun rest laterStore laterRevision hload => ?_⟩
    have hextended := hread later laterStore laterRevision rest hload
    refine ⟨hextended, fun wholeStore wholeRevision hwhole' => ?_⟩
    rw [← List.append_nil whole] at hwhole'
    rw [restoreRevision, restoreRevision, hextended,
      hread later wholeStore wholeRevision [] hwhole']

/-- A checkpoint of two counters that is cut exactly between them, and one with a byte too many. -/
theorem restoreRevision_of_torn_between :
    let service : SnapshotService Nat := ⟨"app", (Table.empty.insert "a" 0).insert "b" 1⟩
    let cells : Cells Nat Counter := fun cell => ⟨UInt64.ofNat cell, none⟩
    let persisted := service.persist cells .asListed .asListed (.made 0) .empty
    let whole := checkpointRows.encode [("a", .encode 1 .u64 0), ("b", .encode 1 .u64 1)]
    let torn := (Store.empty.save "app" (.chosen "torn") (whole.take 37)).next
    let extended := (persisted.next.save "app" (.chosen "extended") (whole ++ [9])).next
    persisted.answer = .ok ⟨.made 0, 2, ["a", "b"]⟩ ∧
      persisted.next.load "app" (.made 0) = some whole ∧ whole.length < 2 ^ 64 ∧
      ∀ (now : Cells Nat Counter) order,
        (∃ cause, service.restoreRevision now order torn (.chosen "torn") =
          { answer := .error (.persistence (.malformedRevision cause)), next := now }) ∧
        service.restoreRevision now order extended (.chosen "extended") =
          service.restoreRevision now order extended (.made 0) := by
  intro service cells persisted whole torn extended
  have hanswer : persisted.answer = .ok ⟨.made 0, 2, ["a", "b"]⟩ := rfl
  have hwhole : persisted.next.load "app" (.made 0) = some whole := rfl
  have hsize : whole.length < 2 ^ 64 := by decide +kernel
  have hcut : whole.take 37 ≠ whole := by decide +kernel
  refine ⟨hanswer, hwhole, hsize, fun now order => ?_⟩
  obtain ⟨htorn, found, -, hextended⟩ :=
    restoreRevision_of_torn hanswer hwhole hsize service now order
  constructor
  · exact htorn _ (List.take_prefix 37 whole) hcut torn (.chosen "torn") rfl
  · have hload : extended.load "app" (.chosen "extended") = some (whole ++ [9]) := rfl
    exact (hextended [9] extended (.chosen "extended") hload).2 extended (.made 0) rfl

end SnapshotService

end StreamScalar
