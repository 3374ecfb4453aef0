import StreamScalar.Proofs.Codec.RoundTrip
import StreamScalar.Proofs.Store
import StreamScalar.Proofs.Table

/-!
# What a snapshot service captures and restores

A capture that succeeds leaves a checkpoint of every registered component under its name
(`checkpoint_of_persist`), in whatever order the components were visited and written. Restoring a
checkpoint to distinct components, none of which refuses its snapshot, reaches each of them once
(`restoreRevision_of_checkpoint`). A restore that fails half-way changes no component that no row
names (`restoreRows_frame`) and the others in no way but by restoring them
(`restoreRevision_preserves`).
-/

namespace StreamScalar

theorem Cells.set_self {κ H : Type} [DecidableEq κ] (cells : Cells κ H) (cell : κ) (holder : H) :
    cells.set cell holder cell = holder := if_pos rfl

theorem Cells.set_of_ne {κ H : Type} [DecidableEq κ] (cells : Cells κ H) {cell cell' : κ}
    (holder : H) (h : cell' ≠ cell) : cells.set cell holder cell' = cells cell' := if_neg h

namespace Traversal

variable {α : Type} (visit : Traversal (String × α)) {t : Table String α}

theorem mem_arrange_iff {id : String} {value : α} :
    (id, value) ∈ visit.arrange t.rows ↔ t.get? id = some value := by
  rw [(visit.perm _).mem_iff, t.mem_rows_iff]

theorem nodup_arrange (t : Table String α) : ((visit.arrange t.rows).map (·.1)).Nodup :=
  ((visit.perm _).map _).nodup_iff.mpr t.nodup

end Traversal

namespace SnapshotService

open Codec (StateLayout checkpointRows)

variable {κ H : Type} [StateHolder H]

/-! ## Capture -/

theorem capture_cons_eq_ok_iff {cells : Cells κ H} {id : String} {cell : κ}
    {rest : List (String × κ)} {captured : List (String × Snapshot)} :
    capture cells ((id, cell) :: rest) = .ok captured ↔
      ∃ snapshot later, StateHolder.serializeState (cells cell) = .ok snapshot ∧
        capture cells rest = .ok later ∧ captured = (id, snapshot) :: later := by
  rw [capture]
  cases StateHolder.serializeState (cells cell) with
  | error e => simp
  | ok snapshot => cases capture cells rest <;> simp [Except.map, eq_comm]

theorem capture_keys {cells : Cells κ H} {holders : List (String × κ)}
    {captured : List (String × Snapshot)} (h : capture cells holders = .ok captured) :
    captured.map (·.1) = holders.map (·.1) := by
  induction holders generalizing captured with
  | nil =>
    cases h
    rfl
  | cons holder rest ih =>
    obtain ⟨snapshot, later, -, hlater, rfl⟩ := capture_cons_eq_ok_iff.mp h
    rw [List.map_cons, List.map_cons, ih hlater]

theorem mem_capture_iff {cells : Cells κ H} {holders : List (String × κ)}
    {captured : List (String × Snapshot)} (h : capture cells holders = .ok captured)
    {id : String} {snapshot : Snapshot} :
    (id, snapshot) ∈ captured ↔
      ∃ cell, (id, cell) ∈ holders ∧ StateHolder.serializeState (cells cell) = .ok snapshot := by
  induction holders generalizing captured with
  | nil =>
    cases h
    simp
  | cons holder rest ih =>
    obtain ⟨state, later, hstate, hlater, rfl⟩ := capture_cons_eq_ok_iff.mp h
    rw [List.mem_cons, ih hlater]
    constructor
    · rintro (hfirst | ⟨cell, hmem, hcell⟩)
      · cases hfirst
        exact ⟨holder.2, List.mem_cons_self, hstate⟩
      · exact ⟨cell, List.mem_cons_of_mem _ hmem, hcell⟩
    · rintro ⟨cell, hmem, hcell⟩
      rcases List.mem_cons.mp hmem with rfl | hmem
      · rw [hstate] at hcell
        cases hcell
        exact Or.inl rfl
      · exact Or.inr ⟨cell, hmem, hcell⟩

variable {service : SnapshotService κ} {cells : Cells κ H} {visit : Traversal (String × κ)}
  {write : Traversal (String × Snapshot)} {revision : Revision} {store : Store}
  {report : PersistReport}

theorem exists_capture (h : (service.persist cells visit write revision store).answer = .ok report) :
    ∃ captured, capture cells (visit.arrange service.holders.rows) = .ok captured ∧
      report = ⟨revision, captured.length, captured.map (·.1)⟩ ∧
      (service.persist cells visit write revision store).next =
        (store.save service.app revision (checkpointRows.encode (write.arrange captured))).next := by
  rw [persist] at h ⊢
  cases hcapture : capture cells (visit.arrange service.holders.rows) with
  | error e => rw [hcapture] at h; cases h
  | ok captured =>
    rw [hcapture] at h
    cases h
    exact ⟨captured, rfl, rfl, rfl⟩

variable {naming : Nat → Revision} {captures : Nat}

theorem le_persistNext :
    captures ≤ (service.persistNext cells visit write naming captures store).next.2 := by
  unfold persistNext
  dsimp only [Step.lift]
  split
  · exact Nat.le_succ captures
  · exact Nat.le_refl captures

/-- A number that a capture has used is not used again. -/
theorem lt_persistNext
    (h : (service.persistNext cells visit write naming captures store).answer = .ok report) :
    report.revision = naming captures ∧
      captures < (service.persistNext cells visit write naming captures store).next.2 := by
  replace h : (service.persist cells visit write (naming captures) store).answer = .ok report := h
  obtain ⟨captured, -, hreport, -⟩ := exists_capture h
  refine ⟨by rw [hreport], ?_⟩
  simp only [persistNext, Step.lift, h]
  exact Nat.lt_succ_self captures

theorem exists_saved (h : (service.persist cells visit write revision store).answer = .ok report) :
    ∃ data, (service.persist cells visit write revision store).next.load service.app revision =
      some data := by
  obtain ⟨captured, -, -, hnext⟩ := exists_capture h
  rw [hnext, Store.load_save, if_pos ⟨rfl, rfl⟩]
  exact ⟨_, rfl⟩

theorem exists_encoded (h : (service.persist cells visit write revision store).answer = .ok report)
    {data : List UInt8}
    (hdata : (service.persist cells visit write revision store).next.load service.app revision =
      some data) :
    ∃ captured, capture cells (visit.arrange service.holders.rows) = .ok captured ∧
      data = checkpointRows.encode (write.arrange captured) := by
  obtain ⟨captured, hcapture, -, hnext⟩ := exists_capture h
  rw [hnext, Store.load_save, if_pos ⟨rfl, rfl⟩, Option.some_inj] at hdata
  exact ⟨captured, hcapture, hdata.symm⟩

theorem load_persist (app : String) {other : Revision} (hother : other ≠ revision) :
    (service.persist cells visit write revision store).next.load app other =
      store.load app other := by
  rw [persist]
  cases capture cells (visit.arrange service.holders.rows) with
  | error failure => rfl
  | ok captured =>
    refine (Store.load_save store service.app revision _ app other).trans ?_
    rw [if_neg fun hsame => hother hsame.2.symm]

theorem exists_snapshot (h : (service.persist cells visit write revision store).answer = .ok report)
    {id : String} {cell : κ} (hcell : service.holders.get? id = some cell) :
    ∃ snapshot, StateHolder.serializeState (cells cell) = .ok snapshot := by
  obtain ⟨captured, hcapture, -, -⟩ := exists_capture h
  have hmem : (id, cell) ∈ visit.arrange service.holders.rows := visit.mem_arrange_iff.mpr hcell
  have hkey : id ∈ captured.map (·.1) := by
    rw [capture_keys hcapture]
    exact List.mem_map.mpr ⟨(id, cell), hmem, rfl⟩
  obtain ⟨⟨id', snapshot⟩, hrow, rfl⟩ := List.mem_map.mp hkey
  obtain ⟨cell', hmem', hstate⟩ := (mem_capture_iff hcapture).mp hrow
  rw [visit.mem_arrange_iff, hcell] at hmem'
  cases hmem'
  exact ⟨snapshot, hstate⟩

theorem components_perm
    (h : (service.persist cells visit write revision store).answer = .ok report) :
    report.components.Perm service.holders.keys := by
  obtain ⟨captured, hcapture, rfl, -⟩ := exists_capture h
  show (captured.map (·.1)).Perm (service.holders.rows.map (·.1))
  rw [capture_keys hcapture]
  exact (visit.perm _).map _

theorem mem_components_iff
    (h : (service.persist cells visit write revision store).answer = .ok report) {id : String} :
    id ∈ report.components ↔ ∃ cell, service.holders.get? id = some cell := by
  rw [(components_perm h).mem_iff, Table.mem_keys_iff, Table.contains, Option.isSome_iff_exists]

theorem get?_captured {holders : Table String κ} {captured : List (String × Snapshot)}
    (h : capture cells (visit.arrange holders.rows) = .ok captured) {id : String}
    {snapshot : Snapshot} :
    (Table.ofList (write.arrange captured)).get? id = some snapshot ↔
      ∃ cell, holders.get? id = some cell ∧
        StateHolder.serializeState (cells cell) = .ok snapshot := by
  have hnodup : ((write.arrange captured).map (·.1)).Nodup := by
    rw [((write.perm captured).map _).nodup_iff, capture_keys h]
    exact visit.nodup_arrange holders
  rw [Table.get?_ofList_eq_some_iff hnodup, (write.perm captured).mem_iff, mem_capture_iff h]
  simp only [visit.mem_arrange_iff]

/-- The bytes that a capture saves are the checkpoint of the registered components wherever and
whenever they are found again, whatever follows them. -/
theorem checkpoint_of_persist_append
    (h : (service.persist cells visit write revision store).answer = .ok report)
    {data : List UInt8}
    (hdata : (service.persist cells visit write revision store).next.load service.app revision =
      some data) (hsize : data.length < 2 ^ 64) :
    ∃ found : Checkpoint, (∀ id snapshot, found.get? id = some snapshot ↔
        ∃ cell, service.holders.get? id = some cell ∧
          StateHolder.serializeState (cells cell) = .ok snapshot) ∧
      ∀ {κ' : Type} (later : SnapshotService κ') (laterStore : Store) (laterRevision : Revision)
        (rest : List UInt8), laterStore.load later.app laterRevision = some (data ++ rest) →
        later.checkpoint laterStore laterRevision = .ok found := by
  obtain ⟨captured, hcapture, rfl⟩ := exists_encoded h hdata
  refine ⟨.ofList (write.arrange captured), fun id snapshot => get?_captured hcapture, ?_⟩
  intro κ' later laterStore laterRevision rest hload
  rw [checkpoint, hload]
  simp only [StateLayout.checkpointRows.faithful.decodeFirst_encode_append hsize]

theorem checkpoint_of_persist
    (h : (service.persist cells visit write revision store).answer = .ok report)
    {data : List UInt8}
    (hdata : (service.persist cells visit write revision store).next.load service.app revision =
      some data) (hsize : data.length < 2 ^ 64) {later : SnapshotService κ} {laterStore : Store}
    (hload : laterStore.load later.app revision = some data) :
    ∃ found, later.checkpoint laterStore revision = .ok found ∧
      ∀ id snapshot, found.get? id = some snapshot ↔
        ∃ cell, service.holders.get? id = some cell ∧
          StateHolder.serializeState (cells cell) = .ok snapshot := by
  obtain ⟨found, hfound, hread⟩ := checkpoint_of_persist_append h hdata hsize
  refine ⟨found, hread later laterStore revision [] ?_, hfound⟩
  rw [List.append_nil]
  exact hload

/-! ## Restoring -/

/-- No component stands under two names. -/
def Distinct (holders : Table String κ) : Prop :=
  ∀ id id' cell, holders.get? id = some cell → holders.get? id' = some cell → id = id'

theorem Distinct.insert {holders : Table String κ} (h : Distinct holders) {id : String} {cell : κ}
    (hcell : ∀ id', holders.get? id' = some cell → id' = id) : Distinct (holders.insert id cell) := by
  intro id₁ id₂ cell' h₁ h₂
  rw [Table.get?_insert] at h₁ h₂
  split at h₁
  · next hid₁ =>
    split at h₂
    · next hid₂ => exact hid₁.symm.trans hid₂
    · rw [Option.some_inj.mp h₁] at hcell
      exact hid₁.symm.trans (hcell id₂ h₂).symm
  · split at h₂
    · next hid₂ =>
      rw [Option.some_inj.mp h₂] at hcell
      exact (hcell id₁ h₁).trans hid₂
    · exact h id₁ id₂ cell' h₁ h₂

theorem Distinct.get?_ne {holders : Table String κ} (h : Distinct holders) {id : String} {cell : κ}
    (hcell : holders.get? id = some cell) {ids : List String} (hfresh : id ∉ ids) :
    ∀ id' ∈ ids, holders.get? id' ≠ some cell := by
  intro id' hmem hcell'
  rw [h id id' cell hcell hcell'] at hfresh
  exact hfresh hmem

variable [DecidableEq κ]

section RestoreRows

variable {holders : Table String κ} {id : String} {cell : κ} {snapshot : Snapshot}
  {rest : List (String × Snapshot)}

theorem restoreRows_cons_none (h : holders.get? id = none) (cells : Cells κ H) :
    restoreRows holders cells ((id, snapshot) :: rest) =
      (restoreRows holders cells rest).after
        [⟨.info, s!"No state holder found for component: {id}"⟩] := by
  rw [restoreRows, h]

theorem restoreRows_cons_ok (h : holders.get? id = some cell) {cells : Cells κ H}
    (hok : (StateHolder.deserializeState (cells cell) snapshot).answer = .ok ()) :
    restoreRows holders cells ((id, snapshot) :: rest) =
      (restoreRows holders
        (cells.set cell (StateHolder.deserializeState (cells cell) snapshot).next) rest).after
        ((StateHolder.deserializeState (cells cell) snapshot).log ++
          [⟨.info, s!"Restored state for component: {id}"⟩]) := by
  rw [restoreRows, h]
  simp only [hok]

theorem restoreRows_cons_error (h : holders.get? id = some cell) {cells : Cells κ H} {e : StateError}
    (herror : (StateHolder.deserializeState (cells cell) snapshot).answer = .error e) :
    restoreRows holders cells ((id, snapshot) :: rest) =
      { answer := .error e
        next := cells.set cell (StateHolder.deserializeState (cells cell) snapshot).next
        log := (StateHolder.deserializeState (cells cell) snapshot).log ++
          [⟨.error, s!"Failed to restore state for {id}: {e.message}"⟩] } := by
  rw [restoreRows, h]
  simp only [herror]

theorem restoreRows_preserves {P : κ → H → Prop}
    (step : ∀ cell holder snapshot, P cell holder →
      P cell (StateHolder.deserializeState holder snapshot).next)
    {cells : Cells κ H} (h : ∀ cell, P cell (cells cell)) (rows : List (String × Snapshot)) :
    ∀ cell, P cell ((restoreRows holders cells rows).next cell) := by
  induction rows generalizing cells with
  | nil => exact h
  | cons row rest ih =>
    obtain ⟨id, snapshot⟩ := row
    cases hcell : holders.get? id with
    | none =>
      rw [restoreRows_cons_none hcell]
      exact ih h
    | some cell =>
      have hset : ∀ cell', P cell'
          (cells.set cell (StateHolder.deserializeState (cells cell) snapshot).next cell') := by
        intro cell'
        by_cases hsame : cell' = cell
        · subst hsame
          rw [Cells.set_self]
          exact step _ _ _ (h _)
        · rw [Cells.set_of_ne _ _ hsame]
          exact h cell'
      cases hanswer : (StateHolder.deserializeState (cells cell) snapshot).answer with
      | error e =>
        rw [restoreRows_cons_error hcell hanswer]
        exact hset
      | ok u =>
        rw [restoreRows_cons_ok hcell hanswer]
        exact ih hset

/-- Components that no row names are left alone, even if the restore fails. -/
theorem restoreRows_frame {rows : List (String × Snapshot)} {cell : κ}
    (hother : ∀ id ∈ rows.map (·.1), holders.get? id ≠ some cell) (cells : Cells κ H) :
    (restoreRows holders cells rows).next cell = cells cell := by
  induction rows generalizing cells with
  | nil => rfl
  | cons row rest ih =>
    obtain ⟨id, snapshot⟩ := row
    have hrest : ∀ id ∈ rest.map (·.1), holders.get? id ≠ some cell :=
      fun id hid => hother id (List.mem_cons_of_mem _ hid)
    cases hfirst : holders.get? id with
    | none =>
      rw [restoreRows_cons_none hfirst]
      exact ih hrest cells
    | some first =>
      have hne : cell ≠ first := by
        rintro rfl
        exact hother id List.mem_cons_self hfirst
      cases hanswer : (StateHolder.deserializeState (cells first) snapshot).answer with
      | error e =>
        rw [restoreRows_cons_error hfirst hanswer]
        exact Cells.set_of_ne _ _ hne
      | ok u =>
        rw [restoreRows_cons_ok hfirst hanswer]
        exact (ih hrest _).trans (Cells.set_of_ne _ _ hne)

theorem restoreRows_of_distinct (hdistinct : Distinct holders) {rows : List (String × Snapshot)}
    (hnodup : (rows.map (·.1)).Nodup) (cells : Cells κ H)
    (hok : ∀ id snapshot cell, (id, snapshot) ∈ rows → holders.get? id = some cell →
      (StateHolder.deserializeState (cells cell) snapshot).answer = .ok ()) :
    (restoreRows holders cells rows).answer = .ok () ∧
      ∀ id snapshot cell, (id, snapshot) ∈ rows → holders.get? id = some cell →
        (restoreRows holders cells rows).next cell =
          (StateHolder.deserializeState (cells cell) snapshot).next := by
  induction rows generalizing cells with
  | nil => exact ⟨rfl, fun id snapshot cell hmem => (nomatch hmem)⟩
  | cons row rest ih =>
    obtain ⟨id, snapshot⟩ := row
    rw [List.map_cons, List.nodup_cons] at hnodup
    obtain ⟨hfresh, hrest⟩ := hnodup
    cases hcell : holders.get? id with
    | none =>
      rw [restoreRows_cons_none hcell]
      obtain ⟨hanswer, hreached⟩ := ih hrest cells
        fun id' snapshot' cell' hmem => hok id' snapshot' cell' (List.mem_cons_of_mem _ hmem)
      refine ⟨hanswer, fun id' snapshot' cell' hmem hcell' => ?_⟩
      rcases List.mem_cons.mp hmem with hfirst | hlater
      · cases hfirst
        rw [hcell] at hcell'
        cases hcell'
      · exact hreached id' snapshot' cell' hlater hcell'
    | some cell =>
      have hfirst := hok id snapshot cell List.mem_cons_self hcell
      -- the later rows name other cells, so neither they nor the first row disturb one another
      have hother := hdistinct.get?_ne hcell hfresh
      have huntouched : ∀ id' snapshot' cell', (id', snapshot') ∈ rest →
          holders.get? id' = some cell' → cell' ≠ cell := by
        rintro id' snapshot' cell' hmem hcell' rfl
        exact hother id' (List.mem_map.mpr ⟨(id', snapshot'), hmem, rfl⟩) hcell'
      rw [restoreRows_cons_ok hcell hfirst]
      obtain ⟨hanswer, hreached⟩ := ih hrest
        (cells.set cell (StateHolder.deserializeState (cells cell) snapshot).next)
        fun id' snapshot' cell' hmem hcell' => by
          rw [Cells.set_of_ne _ _ (huntouched id' snapshot' cell' hmem hcell')]
          exact hok id' snapshot' cell' (List.mem_cons_of_mem _ hmem) hcell'
      refine ⟨hanswer, fun id' snapshot' cell' hmem hcell' => ?_⟩
      rcases List.mem_cons.mp hmem with hhead | hlater
      · cases hhead
        rw [hcell] at hcell'
        cases hcell'
        exact (restoreRows_frame hother _).trans (Cells.set_self _ _ _)
      · refine (hreached id' snapshot' cell' hlater hcell').trans ?_
        rw [Cells.set_of_ne _ _ (huntouched id' snapshot' cell' hlater hcell')]

end RestoreRows

theorem restoreRevision_of_checkpoint {service : SnapshotService κ} {store : Store}
    {revision : Revision} {found : Checkpoint}
    (hfound : service.checkpoint store revision = .ok found) (hdistinct : Distinct service.holders)
    {cells : Cells κ H}
    (hok : ∀ id snapshot cell, found.get? id = some snapshot → service.holders.get? id = some cell →
      (StateHolder.deserializeState (cells cell) snapshot).answer = .ok ())
    (visit : Traversal (String × Snapshot)) :
    (service.restoreRevision cells visit store revision).answer = .ok () ∧
      (∀ id snapshot cell, found.get? id = some snapshot → service.holders.get? id = some cell →
        (service.restoreRevision cells visit store revision).next cell =
          (StateHolder.deserializeState (cells cell) snapshot).next) ∧
      ∀ cell, (∀ id snapshot, found.get? id = some snapshot → service.holders.get? id ≠ some cell) →
        (service.restoreRevision cells visit store revision).next cell = cells cell := by
  obtain ⟨hanswer, hreached⟩ := restoreRows_of_distinct hdistinct (visit.nodup_arrange found) cells
    fun id snapshot cell hrow => hok id snapshot cell (visit.mem_arrange_iff.mp hrow)
  rw [restoreRevision, hfound]
  refine ⟨?_, fun id snapshot cell hrow => ?_, fun cell hother => ?_⟩
  · show Except.mapError Error.state _ = _
    rw [hanswer]
    rfl
  · exact hreached id snapshot cell (visit.mem_arrange_iff.mpr hrow)
  · refine restoreRows_frame (fun id hkey => ?_) cells
    obtain ⟨⟨id', snapshot⟩, hrow, rfl⟩ := List.mem_map.mp hkey
    exact hother id' snapshot (visit.mem_arrange_iff.mp hrow)

theorem restoreRevision_preserves {P : κ → H → Prop}
    (step : ∀ cell holder snapshot, P cell holder →
      P cell (StateHolder.deserializeState holder snapshot).next)
    {cells : Cells κ H} (h : ∀ cell, P cell (cells cell)) (service : SnapshotService κ)
    (visit : Traversal (String × Snapshot)) (store : Store) (revision : Revision) :
    ∀ cell, P cell ((service.restoreRevision cells visit store revision).next cell) := by
  rw [restoreRevision]
  cases service.checkpoint store revision with
  | error e => exact h
  | ok found => exact restoreRows_preserves step h _

theorem restoreLastRevision_preserves {P : κ → H → Prop}
    (step : ∀ cell holder snapshot, P cell holder →
      P cell (StateHolder.deserializeState holder snapshot).next)
    {cells : Cells κ H} (h : ∀ cell, P cell (cells cell)) (service : SnapshotService κ)
    (visit : Traversal (String × Snapshot)) (store : Store) :
    ∀ cell, P cell ((service.restoreLastRevision cells visit store).next cell) := by
  rw [restoreLastRevision]
  cases store.lastRevision service.app with
  | none => exact h
  | some revision => exact restoreRevision_preserves step h service visit store revision

end SnapshotService

end StreamScalar
