import Mathlib.Data.List.Dedup
import StreamScalar.Host.Basic
import StreamScalar.Proofs.SnapshotService

/-!
# Capturing all components or nothing

What a service has registered is the table of its registrations, the last one of a name counting
(`holders_registerAll`). A capture visits these components in some order. If one of them cannot be
captured, the capture fails at such a component and has not touched the store (`capture_eq_error`).
Otherwise there is one new revision, which holds each of them once and can be read back, and a report
that says as much.

* `persist_outcomes` : both outcomes of a capture, after every sequence of registrations.
-/

namespace StreamScalar

namespace SnapshotService

open Codec (checkpointRows)

variable {κ H : Type}

/-- The service with components registered one after another. -/
def registerAll (service : SnapshotService κ) (registrations : List (String × κ)) :
    SnapshotService κ :=
  registrations.foldl (fun service row => (service.register row.1 row.2).next) service

theorem app_registerAll (service : SnapshotService κ) (registrations : List (String × κ)) :
    (service.registerAll registrations).app = service.app := by
  induction registrations generalizing service with
  | nil => rfl
  | cons row rest ih => exact ih (service.register row.1 row.2).next

theorem holders_registerAll (service : SnapshotService κ) (registrations : List (String × κ)) :
    (service.registerAll registrations).holders =
      registrations.foldl (fun t row => t.insert row.1 row.2) service.holders := by
  induction registrations generalizing service with
  | nil => rfl
  | cons row rest ih => exact ih (service.register row.1 row.2).next

theorem holders_ofApp (app : String) (registrations : List (String × κ)) :
    ((ofApp app).registerAll registrations).holders = .ofList registrations :=
  holders_registerAll _ _

theorem get?_registerAll {app : String} {registrations : List (String × κ)} {id : String} {cell : κ} :
    ((ofApp app).registerAll registrations).holders.get? id = some cell ↔
      Table.LastRow registrations id cell := by
  rw [holders_ofApp, Table.get?_ofList_eq_some_iff_lastRow]

variable [StateHolder H]

/-! ## When a capture fails -/

theorem capture_eq_error {cells : Cells κ H} {holders : List (String × κ)} {id : String}
    {e : StateError} (h : capture cells holders = .error (id, e)) :
    ∃ cell, (id, cell) ∈ holders ∧ StateHolder.serializeState (cells cell) = .error e := by
  induction holders with
  | nil => cases h
  | cons holder rest ih =>
    obtain ⟨id', cell⟩ := holder
    rw [capture] at h
    cases hstate : StateHolder.serializeState (cells cell) with
    | error e' =>
      rw [hstate] at h
      cases h
      exact ⟨cell, List.mem_cons_self, hstate⟩
    | ok snapshot =>
      rw [hstate] at h
      cases hrest : capture cells rest with
      | ok captured =>
        rw [hrest] at h
        cases h
      | error failure =>
        rw [hrest] at h
        cases h
        obtain ⟨cell', hmem, hcell'⟩ := ih hrest
        exact ⟨cell', List.mem_cons_of_mem _ hmem, hcell'⟩

variable {service : SnapshotService κ} {cells : Cells κ H} {visit : Traversal (String × κ)}
  {write : Traversal (String × Snapshot)} {revision : Revision} {store : Store}

theorem exists_failure_of_error {e : PersistenceError}
    (h : (service.persist cells visit write revision store).answer = .error e) :
    ∃ id cell cause, service.holders.get? id = some cell ∧
      StateHolder.serializeState (cells cell) = .error cause ∧ e = .componentFailed id cause ∧
      (service.persist cells visit write revision store).next = store := by
  rw [persist] at h ⊢
  cases hcapture : capture cells (visit.arrange service.holders.rows) with
  | ok captured =>
    rw [hcapture] at h
    cases h
  | error failure =>
    rw [hcapture] at h
    cases h
    obtain ⟨cell, hmem, hcell⟩ := capture_eq_error hcapture
    exact ⟨failure.1, cell, failure.2, visit.mem_arrange_iff.mp hmem, hcell, rfl, rfl⟩

/-! ## What a capture leaves -/

theorem count_eq_length {report : PersistReport}
    (h : (service.persist cells visit write revision store).answer = .ok report) :
    report.count = report.components.length := by
  obtain ⟨captured, -, rfl, -⟩ := exists_capture h
  exact (List.length_map _).symm

/-- A capture that has succeeded: what the store holds after it, and what it reports. -/
structure Captured (app : String) (registrations : List (String × κ)) (cells : Cells κ H)
    (revision : Revision) (before after : Store) (report : PersistReport) : Prop where
  /-- One revision is saved and no other is touched. What is saved reads as the table of all
  registered components. -/
  saved : ∃ data,
    (∀ app' revision', after.load app' revision' =
      if app = app' ∧ revision = revision' then some data else before.load app' revision') ∧
    (data.length < 2 ^ 64 → ∃ rows, checkpointRows.decodeFirst data = .ok rows ∧
      ∀ id snapshot, Table.LastRow rows id snapshot ↔
        ∃ cell, Table.LastRow registrations id cell ∧
          StateHolder.serializeState (cells cell) = .ok snapshot)
  /-- Under a name that is new to the store it is added to all that are there. -/
  added : before.load app revision = none → ∀ app' revision' bytes,
    before.load app' revision' = some bytes → after.load app' revision' = some bytes
  lastRevision : ∀ app', after.lastRevision app' =
    if app = app' then some revision else before.lastRevision app'
  reported : report.revision = revision
  components : report.components.Perm (registrations.map (·.1)).dedup
  count : report.count = (registrations.map (·.1)).dedup.length

theorem captured_of_persist {app : String} {registrations : List (String × κ)}
    {report : PersistReport}
    (h : (((ofApp app).registerAll registrations).persist cells visit write revision store).answer =
      .ok report) :
    Captured app registrations cells revision store
      (((ofApp app).registerAll registrations).persist cells visit write revision store).next
      report := by
  have hcomponents : report.components.Perm (registrations.map (·.1)).dedup := by
    refine (components_perm h).trans ?_
    rw [holders_ofApp]
    refine (List.perm_ext_iff_of_nodup (Table.ofList registrations).nodup (List.nodup_dedup _)).mpr
      fun id => ?_
    rw [List.mem_dedup]
    exact Table.mem_keys_ofList_iff
  obtain ⟨captured, hcapture, hreport, hnext⟩ := exists_capture h
  rw [hnext, app_registerAll]
  have hload := Store.load_save store app revision (checkpointRows.encode (write.arrange captured))
  refine ⟨⟨_, hload, fun hsize => ⟨write.arrange captured, ?_, fun id snapshot => ?_⟩⟩,
    fun hnew app' revision' bytes hbytes => ?_, fun app' => ?_, by rw [hreport], hcomponents, ?_⟩
  · exact Codec.StateLayout.checkpointRows.faithful.decodeFirst_encode hsize
  · rw [← Table.get?_ofList_eq_some_iff_lastRow, get?_captured hcapture]
    simp only [get?_registerAll]
  · refine (hload app' revision').trans ?_
    rw [if_neg, hbytes]
    rintro ⟨rfl, rfl⟩
    rw [hnew] at hbytes
    cases hbytes
  · exact Store.lastRevision_save store app revision _ app'
  · rw [count_eq_length h, hcomponents.length_eq]

/-- **All components or nothing.** A capture of components that can all be captured adds one revision,
which holds each of them once. If one of them cannot, the capture fails at such a component and the
store is as it was. Either way a host's components are as they were. -/
theorem persist_outcomes (app : String) (registrations : List (String × κ)) (cells : Cells κ H)
    (visit : Traversal (String × κ)) (write : Traversal (String × Snapshot)) (revision : Revision)
    (store : Store) :
    let saved := ((ofApp app).registerAll registrations).persist cells visit write revision store
    ((∀ id cell, Table.LastRow registrations id cell →
        ∃ snapshot, StateHolder.serializeState (cells cell) = .ok snapshot) →
      ∃ report, saved.answer = .ok report ∧
        Captured app registrations cells revision store saved.next report) ∧
    ((∃ id cell cause, Table.LastRow registrations id cell ∧
        StateHolder.serializeState (cells cell) = .error cause) →
      (∃ id cell cause, Table.LastRow registrations id cell ∧
        StateHolder.serializeState (cells cell) = .error cause ∧
        saved.answer = .error (.componentFailed id cause)) ∧ saved.next = store) ∧
    ∀ (host : Host) (name : String), (host.persist name).next.cells = host.cells := by
  intro saved
  refine ⟨fun hall => ?_, ?_, fun host name => ?_⟩
  · cases hanswer : saved.answer with
    | ok report => exact ⟨report, rfl, captured_of_persist hanswer⟩
    | error e =>
      obtain ⟨id, cell, cause, hcell, hcause, -, -⟩ := exists_failure_of_error hanswer
      obtain ⟨snapshot, hsnapshot⟩ := hall id cell (get?_registerAll.mp hcell)
      rw [hcause] at hsnapshot
      cases hsnapshot
  · rintro ⟨id, cell, cause, hcell, hcause⟩
    cases hanswer : saved.answer with
    | ok report =>
      obtain ⟨snapshot, hsnapshot⟩ := exists_snapshot hanswer (get?_registerAll.mpr hcell)
      rw [hcause] at hsnapshot
      cases hsnapshot
    | error e =>
      obtain ⟨id', cell', cause', hcell', hcause', rfl, hnext⟩ := exists_failure_of_error hanswer
      exact ⟨⟨id', cell', cause', get?_registerAll.mp hcell', hcause', rfl⟩, hnext⟩
  · rw [Host.persist]
    cases host.services.get? name <;> rfl

/-- Two names for one counter, one of them given to another counter later, which can be told to fail. -/
theorem persist_outcomes_replaced :
    let registrations : List (String × Nat) := [("a", 0), ("b", 0), ("a", 1)]
    let cells : Option String → Cells Nat Counter := fun failure cell =>
      if cell = 0 then ⟨1, none⟩ else ⟨2, failure⟩
    let store := (Store.empty.save "app" (.chosen "0") [7]).next
    store.load "app" (.made 0) = none ∧ ∀ visit write,
      let saved := fun failure => ((ofApp "app").registerAll registrations).persist (cells failure)
        visit write (.made 0) store
      (∃ report, (saved none).answer = .ok report ∧ report.count = 2 ∧
        Captured "app" registrations (cells none) (.made 0) store (saved none).next report) ∧
      (saved (some "full")).answer = .error (.componentFailed "a" (.encode "full")) ∧
      (saved (some "full")).next = store := by
  intro registrations cells store
  have hlast : ∀ id cell, Table.LastRow registrations id cell →
      id = "a" ∧ cell = 1 ∨ id = "b" ∧ cell = 0 := by
    intro id cell h
    have hmem : (id, cell) ∈ [("a", 1), ("b", 0)] :=
      (Table.ofList registrations).mem_rows_iff.mpr (Table.get?_ofList_eq_some_iff_lastRow.mpr h)
    simpa using hmem
  refine ⟨rfl, fun visit write => ?_⟩
  intro saved
  obtain ⟨hcaptured, -, -⟩ :=
    persist_outcomes "app" registrations (cells none) visit write (.made 0) store
  obtain ⟨-, hrefused, -⟩ :=
    persist_outcomes "app" registrations (cells (some "full")) visit write (.made 0) store
  constructor
  · obtain ⟨report, hanswer, hreport⟩ := hcaptured fun id cell h => by
      rcases hlast id cell h with ⟨-, rfl⟩ | ⟨-, rfl⟩ <;> exact ⟨_, rfl⟩
    exact ⟨report, hanswer, hreport.count, hreport⟩
  · obtain ⟨⟨id, cell, cause, h, hcause, hanswer⟩, hnext⟩ :=
      hrefused ⟨"a", 1, .encode "full", ⟨[_, _], [], rfl, by simp⟩, rfl⟩
    rcases hlast id cell h with ⟨rfl, rfl⟩ | ⟨-, rfl⟩
    · cases hcause
      exact ⟨hanswer, hnext⟩
    · cases hcause

end SnapshotService

end StreamScalar
