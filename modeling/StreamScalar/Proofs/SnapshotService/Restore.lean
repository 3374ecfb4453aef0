import Mathlib.Data.List.Induction
import StreamScalar.Host.Counter
import StreamScalar.Proofs.SnapshotService

/-!
# Restoring in any order

The rows of a checkpoint are visited in an order that nobody fixes, and the first component to refuse
its snapshot ends the restore. Up to there every row has done its work and behind it none
(`restoreRows_append_of_ok`, `restoreRows_append_of_error`). Since no component stands under two
names, a row finds its component as it was before the restore, so that whether a row succeeds does not
depend on the others (`restoreRows_answer_eq_ok_iff`). What remains of the order is where a failing
restore stops.

* `restoreRevision_outcomes` : the outcome of a restore, in every order.
-/

namespace StreamScalar

namespace SnapshotService

open Codec (checkpointRows)

variable {κ H : Type} [StateHolder H]

variable [DecidableEq κ]

/-! ## Where a restore stops -/

section RestoreRows

variable {holders : Table String κ} {cells : Cells κ H} {rows more : List (String × Snapshot)}

theorem restoreRows_append_of_ok (h : (restoreRows holders cells rows).answer = .ok ()) :
    restoreRows holders cells (rows ++ more) =
      (restoreRows holders (restoreRows holders cells rows).next more).after
        (restoreRows holders cells rows).log := by
  induction rows generalizing cells with
  | nil => rfl
  | cons row rest ih =>
    obtain ⟨id, snapshot⟩ := row
    rw [List.cons_append]
    cases hcell : holders.get? id with
    | none =>
      rw [restoreRows_cons_none hcell] at h ⊢
      rw [restoreRows_cons_none hcell, ih h]
      simp [Step.after]
    | some cell =>
      cases hanswer : (StateHolder.deserializeState (cells cell) snapshot).answer with
      | error e =>
        rw [restoreRows_cons_error hcell hanswer] at h
        cases h
      | ok u =>
        rw [restoreRows_cons_ok hcell hanswer] at h ⊢
        rw [restoreRows_cons_ok hcell hanswer, ih h]
        simp [Step.after]

theorem restoreRows_append_of_error {e : StateError}
    (h : (restoreRows holders cells rows).answer = .error e) :
    restoreRows holders cells (rows ++ more) = restoreRows holders cells rows := by
  induction rows generalizing cells with
  | nil => cases h
  | cons row rest ih =>
    obtain ⟨id, snapshot⟩ := row
    rw [List.cons_append]
    cases hcell : holders.get? id with
    | none =>
      rw [restoreRows_cons_none hcell] at h
      rw [restoreRows_cons_none hcell, restoreRows_cons_none hcell, ih h]
    | some cell =>
      cases hanswer : (StateHolder.deserializeState (cells cell) snapshot).answer with
      | error e =>
        rw [restoreRows_cons_error hcell hanswer, restoreRows_cons_error hcell hanswer]
      | ok u =>
        rw [restoreRows_cons_ok hcell hanswer] at h
        rw [restoreRows_cons_ok hcell hanswer, restoreRows_cons_ok hcell hanswer, ih h]

theorem exists_row_of_error {e : StateError} (h : (restoreRows holders cells rows).answer = .error e) :
    ∃ done id snapshot rest cell, rows = done ++ (id, snapshot) :: rest ∧
      (restoreRows holders cells done).answer = .ok () ∧ holders.get? id = some cell ∧
      (StateHolder.deserializeState ((restoreRows holders cells done).next cell) snapshot).answer =
        .error e ∧
      (restoreRows holders cells rows).next = (restoreRows holders cells done).next.set cell
        (StateHolder.deserializeState ((restoreRows holders cells done).next cell) snapshot).next := by
  -- from the back: the last row is only reached if those before it have not failed
  induction rows using List.reverseRecOn with
  | nil => cases h
  | append_singleton rows row ih =>
    cases hbefore : (restoreRows holders cells rows).answer with
    | error e' =>
      rw [restoreRows_append_of_error hbefore] at h ⊢
      obtain ⟨done, id, snapshot, rest, cell, hrows, hrest⟩ := ih h
      exact ⟨done, id, snapshot, rest ++ [row], cell, by rw [hrows]; simp, hrest⟩
    | ok u =>
      obtain ⟨id, snapshot⟩ := row
      rw [restoreRows_append_of_ok hbefore] at h ⊢
      change (restoreRows holders (restoreRows holders cells rows).next [(id, snapshot)]).answer = _ at h
      cases hcell : holders.get? id with
      | none =>
        rw [restoreRows_cons_none hcell] at h
        cases h
      | some cell =>
        refine ⟨rows, id, snapshot, [], cell, rfl, hbefore, hcell, ?_⟩
        cases hanswer : (StateHolder.deserializeState
          ((restoreRows holders cells rows).next cell) snapshot).answer with
        | ok u =>
          rw [restoreRows_cons_ok hcell hanswer] at h
          cases h
        | error e' =>
          rw [restoreRows_cons_error hcell hanswer] at h ⊢
          cases h
          exact ⟨rfl, rfl⟩

/-! ## Components that do not disturb one another -/

theorem restoreRows_next_of_fresh (hdistinct : Distinct holders) {id : String} {cell : κ}
    (hcell : holders.get? id = some cell) (hfresh : id ∉ rows.map (·.1)) :
    (restoreRows holders cells rows).next cell = cells cell :=
  restoreRows_frame (hdistinct.get?_ne hcell hfresh) cells

omit [DecidableEq κ] [StateHolder H] in
theorem fresh_of_nodup {done rest : List (String × Snapshot)} {id : String} {snapshot : Snapshot}
    (h : ((done ++ (id, snapshot) :: rest).map (·.1)).Nodup) : id ∉ done.map (·.1) := by
  rw [List.map_append, List.map_cons, List.nodup_middle, List.nodup_cons, List.mem_append] at h
  exact fun hmem => h.1 (Or.inl hmem)

theorem restoreRows_answer_eq_ok_iff (hdistinct : Distinct holders)
    (hnodup : (rows.map (·.1)).Nodup) :
    (restoreRows holders cells rows).answer = .ok () ↔
      ∀ id snapshot cell, (id, snapshot) ∈ rows → holders.get? id = some cell →
        (StateHolder.deserializeState (cells cell) snapshot).answer = .ok () := by
  constructor
  · intro h id snapshot cell hmem hcell
    obtain ⟨done, rest, rfl⟩ := List.append_of_mem hmem
    have hsame : (restoreRows holders cells done).next cell = cells cell :=
      restoreRows_next_of_fresh hdistinct hcell (fresh_of_nodup hnodup)
    cases hdone : (restoreRows holders cells done).answer with
    | error e =>
      rw [restoreRows_append_of_error hdone, hdone] at h
      cases h
    | ok u =>
      cases hanswer : (StateHolder.deserializeState (cells cell) snapshot).answer with
      | ok u => rfl
      | error e =>
        rw [← hsame] at hanswer
        rw [restoreRows_append_of_ok hdone, restoreRows_cons_error hcell hanswer] at h
        cases h
  · intro h
    exact (restoreRows_of_distinct hdistinct hnodup cells h).1

end RestoreRows

/-! ## Restoring the rows of a blob -/

/-- The snapshot that rows hold for a registered component; of rows with one name the last counts. -/
structure Addressed (holders : Table String κ) (rows : List (String × Snapshot)) (id : String)
    (snapshot : Snapshot) (cell : κ) : Prop where
  registered : holders.get? id = some cell
  last : Table.LastRow rows id snapshot

/-- The component is as it was, or it has been restored. -/
def Whole (holders : Table String κ) (rows : List (String × Snapshot)) (before after : Cells κ H)
    (cell : κ) : Prop :=
  after cell = before cell ∨
    ∃ id snapshot, Addressed holders rows id snapshot cell ∧
      (StateHolder.deserializeState (before cell) snapshot).answer = .ok () ∧
      after cell = (StateHolder.deserializeState (before cell) snapshot).next

section Addressed

variable {holders : Table String κ} {rows : List (String × Snapshot)}

omit [StateHolder H] [DecidableEq κ] in
theorem Addressed.unique (hdistinct : Distinct holders) {id id' : String}
    {snapshot snapshot' : Snapshot} {cell : κ} (h : Addressed holders rows id snapshot cell)
    (h' : Addressed holders rows id' snapshot' cell) : snapshot = snapshot' := by
  obtain rfl := hdistinct id id' cell h.registered h'.registered
  have hfirst := Table.get?_ofList_eq_some_iff_lastRow.mpr h.last
  rw [Table.get?_ofList_eq_some_iff_lastRow.mpr h'.last] at hfirst
  exact (Option.some_inj.mp hfirst).symm

omit [StateHolder H] [DecidableEq κ] in
theorem addressed_iff_mem_arrange (visit : Traversal (String × Snapshot)) {id : String}
    {snapshot : Snapshot} {cell : κ} :
    Addressed holders rows id snapshot cell ↔
      (id, snapshot) ∈ visit.arrange (Table.ofList rows).rows ∧ holders.get? id = some cell := by
  rw [visit.mem_arrange_iff, Table.get?_ofList_eq_some_iff_lastRow]
  exact ⟨fun h => ⟨h.last, h.registered⟩, fun h => ⟨h.2, h.1⟩⟩

variable (holders rows) in
/-- Restores registered components from the rows of a blob, in the order of a traversal. -/
def restoreIn (cells : Cells κ H) (visit : Traversal (String × Snapshot)) :
    Step (Cells κ H) (Except StateError Unit) :=
  restoreRows holders cells (visit.arrange (Table.ofList rows).rows)

variable {cells : Cells κ H} {visit : Traversal (String × Snapshot)}

theorem restoreIn_answer_eq_ok_iff (hdistinct : Distinct holders) :
    (restoreIn holders rows cells visit).answer = .ok () ↔
      ∀ id snapshot cell, Addressed holders rows id snapshot cell →
        (StateHolder.deserializeState (cells cell) snapshot).answer = .ok () := by
  rw [restoreIn, restoreRows_answer_eq_ok_iff hdistinct (visit.nodup_arrange _)]
  simp only [addressed_iff_mem_arrange visit, and_imp]

theorem restoreIn_reached (hdistinct : Distinct holders)
    (h : (restoreIn holders rows cells visit).answer = .ok ()) {id : String} {snapshot : Snapshot}
    {cell : κ} (haddressed : Addressed holders rows id snapshot cell) :
    (restoreIn holders rows cells visit).next cell =
      (StateHolder.deserializeState (cells cell) snapshot).next := by
  have hnodup := visit.nodup_arrange (Table.ofList rows)
  obtain ⟨hrow, hcell⟩ := (addressed_iff_mem_arrange visit).mp haddressed
  have hok := (restoreRows_answer_eq_ok_iff hdistinct hnodup).mp h
  exact (restoreRows_of_distinct hdistinct hnodup cells hok).2 id snapshot cell hrow hcell

theorem restoreIn_untouched {cell : κ}
    (hother : ∀ id snapshot, ¬ Addressed holders rows id snapshot cell) :
    (restoreIn holders rows cells visit).next cell = cells cell := by
  refine restoreRows_frame (fun id hkey hcell => ?_) cells
  obtain ⟨⟨id', snapshot⟩, hrow, rfl⟩ := List.mem_map.mp hkey
  exact hother id' snapshot ((addressed_iff_mem_arrange visit).mpr ⟨hrow, hcell⟩)

/-- A failing restore has done its work at some rows, failed at one and not reached the others. -/
theorem restoreIn_failed (hdistinct : Distinct holders) {e : StateError}
    (h : (restoreIn holders rows cells visit).answer = .error e) :
    ∃ id snapshot cell, Addressed holders rows id snapshot cell ∧
      (StateHolder.deserializeState (cells cell) snapshot).answer = .error e ∧
      (restoreIn holders rows cells visit).next cell =
        (StateHolder.deserializeState (cells cell) snapshot).next ∧
      ∀ other ≠ cell, Whole holders rows cells (restoreIn holders rows cells visit).next other := by
  obtain ⟨done, id, snapshot, rest, cell, hrows, hdone, hcell, herror, hnext⟩ := exists_row_of_error h
  have haddressed : ∀ row ∈ done ++ (id, snapshot) :: rest, ∀ cell,
      holders.get? row.1 = some cell → Addressed holders rows row.1 row.2 cell := by
    intro row hrow cell hcell
    rw [← hrows] at hrow
    exact (addressed_iff_mem_arrange visit).mpr ⟨hrow, hcell⟩
  have hnodup := visit.nodup_arrange (Table.ofList rows)
  rw [hrows] at hnodup
  have hsame : (restoreRows holders cells done).next cell = cells cell :=
    restoreRows_next_of_fresh hdistinct hcell (fresh_of_nodup hnodup)
  rw [hsame] at herror hnext
  have hset : (restoreIn holders rows cells visit).next = _ := hnext
  refine ⟨id, snapshot, cell, haddressed (id, snapshot) (by simp) cell hcell, herror, ?_,
    fun other hother => ?_⟩
  · rw [hset, Cells.set_self]
  · -- the failing row is of another component, so only the rows before it matter
    rw [Whole, hset, Cells.set_of_ne _ _ hother]
    have hnodup' : (done.map (·.1)).Nodup := by
      rw [List.map_append] at hnodup
      exact hnodup.of_append_left
    have hok := (restoreRows_answer_eq_ok_iff hdistinct hnodup').mp hdone
    obtain ⟨-, hreached⟩ := restoreRows_of_distinct hdistinct hnodup' cells hok
    by_cases hnamed : ∃ id' snapshot', (id', snapshot') ∈ done ∧ holders.get? id' = some other
    · obtain ⟨id', snapshot', hmem, hother'⟩ := hnamed
      exact Or.inr ⟨id', snapshot',
        haddressed (id', snapshot') (List.mem_append_left _ hmem) other hother',
        hok id' snapshot' other hmem hother', hreached id' snapshot' other hmem hother'⟩
    · refine Or.inl (restoreRows_frame (fun id' hkey hother' => hnamed ?_) cells)
      obtain ⟨⟨id', snapshot'⟩, hmem, rfl⟩ := List.mem_map.mp hkey
      exact ⟨id', snapshot', hmem, hother'⟩

/-- The order does not show in what a restore that succeeds leaves. -/
theorem restoreIn_next_eq (hdistinct : Distinct holders) {visit' : Traversal (String × Snapshot)}
    (h : (restoreIn holders rows cells visit).answer = .ok ())
    (h' : (restoreIn holders rows cells visit').answer = .ok ()) :
    (restoreIn holders rows cells visit').next = (restoreIn holders rows cells visit).next := by
  funext cell
  by_cases haddressed : ∃ id snapshot, Addressed holders rows id snapshot cell
  · obtain ⟨id, snapshot, haddressed⟩ := haddressed
    rw [restoreIn_reached hdistinct h haddressed, restoreIn_reached hdistinct h' haddressed]
  · have hother : ∀ id snapshot, ¬ Addressed holders rows id snapshot cell :=
      fun id snapshot h => haddressed ⟨id, snapshot, h⟩
    rw [restoreIn_untouched hother, restoreIn_untouched hother]

theorem restoreIn_unchanged (hdistinct : Distinct holders) {id : String} {snapshot : Snapshot}
    {cell : κ} {cause : StateError} (haddressed : Addressed holders rows id snapshot cell)
    (hanswer : (StateHolder.deserializeState (cells cell) snapshot).answer = .error cause)
    (hnext : (StateHolder.deserializeState (cells cell) snapshot).next = cells cell) :
    (restoreIn holders rows cells visit).next cell = cells cell := by
  cases hrestored : (restoreIn holders rows cells visit).answer with
  | ok u =>
    rw [(restoreIn_answer_eq_ok_iff hdistinct).mp hrestored id snapshot cell haddressed] at hanswer
    cases hanswer
  | error e =>
    obtain ⟨id', snapshot', cell', haddressed', -, hfailed, hwhole⟩ :=
      restoreIn_failed hdistinct hrestored
    by_cases hcell : cell = cell'
    · subst hcell
      rw [hfailed, haddressed'.unique hdistinct haddressed, hnext]
    · -- were it restored, it would have been from the snapshot that it refuses
      rcases hwhole cell hcell with hsame | ⟨id'', snapshot'', haddressed'', hok, -⟩
      · exact hsame
      · rw [haddressed''.unique hdistinct haddressed, hanswer] at hok
        cases hok

end Addressed

/-! ## Restoring a revision -/

/-- What restoring a blob's rows comes to, in every order. -/
structure Restores (holders : Table String κ) (rows : List (String × Snapshot)) (cells : Cells κ H)
    (restored : Traversal (String × Snapshot) → Step (Cells κ H) (Except Error Unit)) : Prop where
  answer_eq_ok_iff : ∀ visit, (restored visit).answer = .ok () ↔
    ∀ id snapshot cell, Addressed holders rows id snapshot cell →
      (StateHolder.deserializeState (cells cell) snapshot).answer = .ok ()
  reached : ∀ visit, (restored visit).answer = .ok () →
    ∀ id snapshot cell, Addressed holders rows id snapshot cell →
      (restored visit).next cell = (StateHolder.deserializeState (cells cell) snapshot).next
  /-- Components without a snapshot are left alone, and names without a component are ignored. -/
  untouched : ∀ visit cell, (∀ id snapshot, ¬ Addressed holders rows id snapshot cell) →
    (restored visit).next cell = cells cell
  /-- Success does not depend on the order, and neither does what it leaves. -/
  next_eq : ∀ visit visit', (restored visit).answer = .ok () →
    (restored visit').answer = .ok () ∧ (restored visit').next = (restored visit).next
  /-- A failure is that of one component, and all the others are whole. -/
  failed : ∀ visit e, (restored visit).answer = .error e →
    ∃ id snapshot cell cause, Addressed holders rows id snapshot cell ∧
      (StateHolder.deserializeState (cells cell) snapshot).answer = .error cause ∧
      e = .state cause ∧
      (restored visit).next cell = (StateHolder.deserializeState (cells cell) snapshot).next ∧
      ∀ other ≠ cell, Whole holders rows cells (restored visit).next other
  unchanged : ∀ visit id snapshot cell cause, Addressed holders rows id snapshot cell →
    (StateHolder.deserializeState (cells cell) snapshot).answer = .error cause →
    (StateHolder.deserializeState (cells cell) snapshot).next = cells cell →
    (restored visit).next cell = cells cell

theorem restores_restoreIn {holders : Table String κ} (hdistinct : Distinct holders)
    (rows : List (String × Snapshot)) (cells : Cells κ H) :
    Restores holders rows cells fun visit =>
      (restoreIn holders rows cells visit).map fun answer => answer.mapError Error.state := by
  have hok : ∀ answer : Except StateError Unit,
      answer.mapError Error.state = .ok () ↔ answer = .ok () := by
    intro answer
    cases answer <;> simp [Except.mapError]
  refine ⟨fun visit => ?_, fun visit h id snapshot cell haddressed => ?_,
    fun visit cell hother => restoreIn_untouched hother, fun visit visit' h => ?_,
    fun visit e h => ?_, fun visit id snapshot cell cause haddressed hanswer hnext =>
      restoreIn_unchanged hdistinct haddressed hanswer hnext⟩
  · exact (hok _).trans (restoreIn_answer_eq_ok_iff hdistinct)
  · exact restoreIn_reached hdistinct ((hok _).mp h) haddressed
  · have hrestored := (hok _).mp h
    have hrestored' : (restoreIn holders rows cells visit').answer = .ok () :=
      (restoreIn_answer_eq_ok_iff hdistinct).mpr
        ((restoreIn_answer_eq_ok_iff hdistinct).mp hrestored)
    exact ⟨(hok _).mpr hrestored', restoreIn_next_eq hdistinct hrestored hrestored'⟩
  · change (restoreIn holders rows cells visit).answer.mapError Error.state = _ at h
    cases hanswer : (restoreIn holders rows cells visit).answer with
    | ok u =>
      rw [hanswer] at h
      cases h
    | error cause =>
      rw [hanswer] at h
      cases h
      obtain ⟨id, snapshot, cell, haddressed, herror, hnext, hwhole⟩ :=
        restoreIn_failed hdistinct hanswer
      exact ⟨id, snapshot, cell, cause, haddressed, herror, rfl, hnext, hwhole⟩

/-- **Restoring a revision, in any order.** Without a blob that can be read nothing is changed, and
otherwise each registered component is restored, or left alone, on its own account. -/
theorem restoreRevision_outcomes (service : SnapshotService κ) (hdistinct : Distinct service.holders)
    (cells : Cells κ H) (store : Store) (revision : Revision) :
    (store.load service.app revision = none → ∀ visit,
      service.restoreRevision cells visit store revision =
        { answer := .error (.persistence (.revisionNotFound revision)), next := cells }) ∧
    ∀ data, store.load service.app revision = some data →
      (∀ cause, checkpointRows.decodeFirst data = .error cause → ∀ visit,
        service.restoreRevision cells visit store revision =
          { answer := .error (.persistence (.malformedRevision cause)), next := cells }) ∧
      ∀ rows, checkpointRows.decodeFirst data = .ok rows →
        Restores service.holders rows cells
          fun visit => service.restoreRevision cells visit store revision := by
  refine ⟨fun hload visit => ?_, fun data hload => ⟨fun cause hread visit => ?_, fun rows hread => ?_⟩⟩
  · simp only [restoreRevision, checkpoint, hload]
  · simp only [restoreRevision, checkpoint, hload, hread]
  · simp only [restoreRevision, checkpoint, hload, hread]
    exact restores_restoreIn hdistinct rows cells

/-- A blob that names one counter twice, another one with a snapshot of no version of its own, and
between them a component that nobody has registered. -/
theorem restoreRevision_outcomes_repeated :
    let holders : Table String Nat := (Table.empty.insert "a" 0).insert "b" 1
    let cells : Cells Nat Counter := fun _ => ⟨5, none⟩
    let rows : List (String × Snapshot) :=
      [("a", .encode 1 .u64 1), ("other", .empty), ("a", .encode 1 .u64 2), ("b", .empty)]
    let store := (Store.empty.save "app" (.chosen "r") (checkpointRows.encode rows)).next
    let restored := fun visit => restoreRevision ⟨"app", holders⟩ cells visit store (.chosen "r")
    Distinct holders ∧ ∀ visit,
      (restored visit).answer = .error (.state (.versionMismatch 1 0)) ∧
        (restored visit).next 1 = ⟨5, none⟩ ∧
        ((restored visit).next 0 = ⟨5, none⟩ ∨ (restored visit).next 0 = ⟨2, none⟩) := by
  intro holders cells rows store restored
  have hregistered : ∀ id cell, holders.get? id = some cell → id = "a" ∧ cell = 0 ∨
      id = "b" ∧ cell = 1 := by
    intro id cell hcell
    have hmem : (id, cell) ∈ [("a", 0), ("b", 1)] := holders.mem_rows_iff.mpr hcell
    simpa using hmem
  have hdistinct : Distinct holders := by
    intro id id' cell h h'
    rcases hregistered id cell h with ⟨rfl, rfl⟩ | ⟨rfl, rfl⟩ <;>
      rcases hregistered id' _ h' with ⟨rfl, hcell⟩ | ⟨rfl, hcell⟩ <;> simp_all
  have hload : store.load "app" (.chosen "r") = some (checkpointRows.encode rows) := by
    rw [Store.load_save, if_pos ⟨rfl, rfl⟩]
  have hread : checkpointRows.decodeFirst (checkpointRows.encode rows) = .ok rows :=
    Codec.StateLayout.checkpointRows.faithful.decodeFirst_encode (by decide +kernel)
  have hok : StateHolder.deserializeState (cells 0) (.encode 1 .u64 2) =
      { answer := .ok (), next := ⟨2, none⟩ } := by rfl
  have herror : StateHolder.deserializeState (cells 1) .empty =
      { answer := .error (.versionMismatch 1 0), next := cells 1 } := by rfl
  have haddressed : ∀ id snapshot cell, Addressed holders rows id snapshot cell →
      cell = 0 ∧ snapshot = .encode 1 .u64 2 ∨ cell = 1 ∧ snapshot = .empty := by
    intro id snapshot cell h
    have hrow := Table.get?_ofList_eq_some_iff_lastRow.mpr h.last
    rcases hregistered id cell h.registered with ⟨rfl, rfl⟩ | ⟨rfl, rfl⟩
    · exact Or.inl ⟨rfl, (Option.some_inj.mp hrow).symm⟩
    · exact Or.inr ⟨rfl, (Option.some_inj.mp hrow).symm⟩
  have hrefused : Addressed holders rows "b" .empty 1 := ⟨rfl, [_, _, _], [], rfl, by simp⟩
  have hrestores : Restores holders rows cells restored :=
    ((restoreRevision_outcomes ⟨"app", holders⟩ hdistinct cells store (.chosen "r")).2 _ hload).2
      rows hread
  clear_value restored
  refine ⟨hdistinct, fun visit => ?_⟩
  cases hanswer : (restored visit).answer with
  | ok u =>
    have hall := (hrestores.answer_eq_ok_iff visit).mp hanswer "b" .empty 1 hrefused
    rw [herror] at hall
    cases hall
  | error e =>
    obtain ⟨id, snapshot, cell, cause, hfailing, hcause, rfl, -, hwhole⟩ :=
      hrestores.failed visit e hanswer
    rcases haddressed id snapshot cell hfailing with ⟨rfl, rfl⟩ | ⟨rfl, rfl⟩
    · rw [hok] at hcause
      cases hcause
    · rw [herror] at hcause
      cases hcause
      refine ⟨rfl, hrestores.unchanged visit "b" .empty 1 (.versionMismatch 1 0) hrefused ?_ ?_, ?_⟩
      · rw [herror]
      · rw [herror]
      · rcases hwhole 0 (by decide) with hsame | ⟨id', snapshot', hother, -, hnext⟩
        · exact Or.inl hsame
        · rcases haddressed id' snapshot' 0 hother with ⟨-, rfl⟩ | ⟨h, -⟩
          · rw [hok] at hnext
            exact Or.inr hnext
          · cases h

end SnapshotService

end StreamScalar
