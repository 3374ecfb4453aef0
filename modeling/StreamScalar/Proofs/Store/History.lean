import Mathlib.Data.List.Induction
import Mathlib.Tactic.Tauto
import StreamScalar.Proofs.Store
import StreamScalar.SnapshotService

/-!
# A store and its history

The answers of a store are read off the sequence of updates that made it. Bytes are there if and only
if they were saved and have not been replaced, deleted or cleared since; a revision is the last one of
its application if and only if it was saved last and has not been deleted or cleared since. Both are
of one form, `Stands`, and follow from what a single update does (`load_apply_eq_some_iff`,
`lastRevision_apply_eq_some_iff`).

* `answers_replay` : the answers of every store, that its last revisions can be loaded, and that
  applications do not disturb one another.
-/

namespace StreamScalar

namespace Store

inductive Update where
  | save (app : String) (revision : Revision) (data : List UInt8)
  | delete (app : String) (revision : Revision)
  | clear (app : String)
  deriving DecidableEq

namespace Update

def app : Update → String
  | save app _ _ | delete app _ | clear app => app

/-- The update replaces the bytes of a revision or takes them away. -/
def Overrides (app : String) (revision : Revision) : Update → Prop
  | save app' revision' _ => app' = app ∧ revision' = revision
  | delete app' revision' => app' = app ∧ revision' = revision
  | clear app' => app' = app

/-- After the update a revision is no longer the last one that its application saved, or is gone. -/
def Succeeds (app : String) (revision : Revision) : Update → Prop
  | save app' _ _ => app' = app
  | delete app' revision' => app' = app ∧ revision' = revision
  | clear app' => app' = app

theorem Overrides.succeeds {app : String} {revision : Revision} {update : Update}
    (h : update.Overrides app revision) : update.Succeeds app revision := by
  cases update with
  | save app' revision' data => exact h.1
  | delete app' revision' => exact h
  | clear app' => exact h

end Update

def apply (store : Store) : Update → Store
  | .save app revision data => (store.save app revision data).next
  | .delete app revision => store.delete app revision
  | .clear app => store.clear app

/-- The store that a history of updates makes. -/
def replay (history : List Update) : Store := history.foldl apply empty

theorem replay_concat (history : List Update) (update : Update) :
    replay (history ++ [update]) = (replay history).apply update := by
  rw [replay, List.foldl_append]
  rfl

/-! ## Updates that stand -/

/-- The update is in the history and no later one overrides it. -/
def Stands (overrides : Update → Prop) (history : List Update) (update : Update) : Prop :=
  ∃ before after, history = before ++ update :: after ∧ ∀ later ∈ after, ¬ overrides later

section Stands

variable {overrides overrides' : Update → Prop} {history : List Update} {update next : Update}

theorem not_stands_nil : ¬ Stands overrides [] update := by
  rintro ⟨before, after, h, -⟩
  simp at h

theorem stands_concat :
    Stands overrides (history ++ [next]) update ↔
      next = update ∨ Stands overrides history update ∧ ¬ overrides next := by
  constructor
  · rintro ⟨before, after, h, hafter⟩
    cases after using List.reverseRecOn with
    | nil =>
      obtain ⟨-, hnext⟩ := List.append_inj' h rfl
      exact Or.inl (List.singleton_inj.mp hnext)
    | append_singleton after' later =>
      right
      rw [← List.cons_append, ← List.append_assoc] at h
      obtain ⟨hhistory, hlater⟩ := List.append_inj' h rfl
      rw [List.singleton_inj.mp hlater]
      refine ⟨⟨before, after', hhistory, fun u hu => hafter u (by simp [hu])⟩, ?_⟩
      exact hafter later (by simp)
  · rintro (rfl | ⟨⟨before, after, rfl, hafter⟩, hnext⟩)
    · exact ⟨history, [], rfl, by simp⟩
    · refine ⟨before, after ++ [next], by simp, fun later hlater => ?_⟩
      rcases List.mem_append.mp hlater with hlater | hlater
      · exact hafter later hlater
      · rw [List.mem_singleton] at hlater
        rw [hlater]
        exact hnext

theorem Stands.mono (himp : ∀ update, overrides' update → overrides update)
    (h : Stands overrides history update) : Stands overrides' history update := by
  obtain ⟨before, after, hhistory, hafter⟩ := h
  exact ⟨before, after, hhistory, fun later hlater ho => hafter later hlater (himp later ho)⟩

end Stands

/-! ## What one update does to the answers -/

variable (store : Store) (update : Update) (app : String) (revision : Revision)

theorem load_apply_eq_some_iff (data : List UInt8) :
    (store.apply update).load app revision = some data ↔
      update = .save app revision data ∨
        store.load app revision = some data ∧ ¬ update.Overrides app revision := by
  cases update with
  | save app' revision' data' =>
    simp only [apply, load_save, Update.Overrides, Update.save.injEq]
    split_ifs with h
    · rw [Option.some_inj]
      tauto
    · tauto
  | delete app' revision' =>
    simp only [apply, load_delete, Update.Overrides, reduceCtorEq, false_or]
    split_ifs with h <;> tauto
  | clear app' =>
    simp only [apply, load_clear, Update.Overrides, reduceCtorEq, false_or]
    split_ifs with h <;> tauto

theorem lastRevision_apply_eq_some_iff :
    (store.apply update).lastRevision app = some revision ↔
      (∃ data, update = .save app revision data) ∨
        store.lastRevision app = some revision ∧ ¬ update.Succeeds app revision := by
  cases update with
  | save app' revision' data' =>
    simp only [apply, lastRevision_save, Update.Succeeds, Update.save.injEq]
    split_ifs with h
    · rw [Option.some_inj]
      simp [h]
    · simp [h]
  | delete app' revision' =>
    simp only [apply, lastRevision_delete, Update.Succeeds, reduceCtorEq, exists_false, false_or]
    split_ifs with h
    · obtain ⟨rfl, hlast⟩ := h
      rw [hlast, Option.some_inj]
      tauto
    · rcases eq_or_ne app' app with rfl | happ
      · have hlast : store.lastRevision app' ≠ some revision' := fun hlast => h ⟨rfl, hlast⟩
        constructor
        · intro hrevision
          refine ⟨hrevision, ?_⟩
          rintro ⟨-, rfl⟩
          exact hlast hrevision
        · exact And.left
      · tauto
  | clear app' =>
    simp only [apply, lastRevision_clear, Update.Succeeds, reduceCtorEq, exists_false, false_or]
    split_ifs with h <;> tauto

theorem apply_of_app_ne {store : Store} {update : Update} {app : String} (h : update.app ≠ app) :
    (∀ revision, (store.apply update).load app revision = store.load app revision) ∧
      (store.apply update).lastRevision app = store.lastRevision app := by
  cases update with
  | save app' revision' data =>
    have happ : app' ≠ app := h
    simp [apply, load_save, lastRevision_save, happ]
  | delete app' revision' =>
    have happ : app' ≠ app := h
    simp [apply, load_delete, lastRevision_delete, happ]
  | clear app' =>
    have happ : app' ≠ app := h
    simp [apply, load_clear, lastRevision_clear, happ]

/-! ## What a history does to the answers -/

variable {app revision} {history : List Update}

theorem load_replay_eq_some_iff {data : List UInt8} :
    (replay history).load app revision = some data ↔
      Stands (Update.Overrides app revision) history (.save app revision data) := by
  induction history using List.reverseRecOn with
  | nil =>
    constructor
    · intro h
      cases h
    · intro h
      exact absurd h not_stands_nil
  | append_singleton history update ih =>
    rw [replay_concat, load_apply_eq_some_iff, stands_concat, ih]

theorem lastRevision_replay_eq_some_iff :
    (replay history).lastRevision app = some revision ↔
      ∃ data, Stands (Update.Succeeds app revision) history (.save app revision data) := by
  induction history using List.reverseRecOn with
  | nil =>
    constructor
    · intro h
      cases h
    · rintro ⟨data, h⟩
      exact absurd h not_stands_nil
  | append_singleton history update ih =>
    simp only [replay_concat, lastRevision_apply_eq_some_iff, stands_concat, ih, exists_or,
      exists_and_right]

/-- The last revision of an application is there to be loaded. -/
theorem exists_load_of_lastRevision (h : (replay history).lastRevision app = some revision) :
    ∃ data, (replay history).load app revision = some data := by
  obtain ⟨data, hstands⟩ := lastRevision_replay_eq_some_iff.mp h
  exact ⟨data, load_replay_eq_some_iff.mpr (hstands.mono fun _ => Update.Overrides.succeeds)⟩

end Store

/-! ## Restoring the last revision -/

namespace SnapshotService

variable {κ H : Type}

theorem checkpoint_ne_notFound {service : SnapshotService κ} {store : Store} {revision : Revision}
    {data : List UInt8} (h : store.load service.app revision = some data) (missing : Revision) :
    service.checkpoint store revision ≠ .error (.revisionNotFound missing) := by
  rw [checkpoint, h]
  dsimp only
  cases Codec.checkpointRows.decodeFirst data <;> simp

variable [DecidableEq κ] [StateHolder H]

theorem restoreRevision_ne_notFound {service : SnapshotService κ} {store : Store}
    {revision : Revision} {data : List UInt8} (h : store.load service.app revision = some data)
    (cells : Cells κ H) (visit : Traversal (String × Snapshot)) (missing : Revision) :
    (service.restoreRevision cells visit store revision).answer ≠
      .error (.persistence (.revisionNotFound missing)) := by
  have hcheckpoint := checkpoint_ne_notFound h missing
  rw [restoreRevision]
  cases hfound : service.checkpoint store revision with
  | error e =>
    intro hanswer
    rw [hfound] at hcheckpoint
    exact hcheckpoint (congrArg Except.error (Error.persistence.inj (Except.error.inj hanswer)))
  | ok found =>
    dsimp only [Step.map]
    cases (restoreRows service.holders cells (visit.arrange found.rows)).answer <;>
      simp [Except.mapError]

theorem restoreLastRevision_ne_notFound {service : SnapshotService κ} {store : Store}
    (h : ∀ revision, store.lastRevision service.app = some revision →
      ∃ data, store.load service.app revision = some data)
    (cells : Cells κ H) (visit : Traversal (String × Snapshot)) (missing : Revision) :
    (service.restoreLastRevision cells visit store).answer ≠
      .error (.persistence (.revisionNotFound missing)) := by
  rw [restoreLastRevision]
  cases hlast : store.lastRevision service.app with
  | none => simp
  | some revision =>
    obtain ⟨data, hdata⟩ := h revision hlast
    have hrestored := restoreRevision_ne_notFound hdata cells visit missing
    dsimp only [Step.map]
    cases hanswer : (service.restoreRevision cells visit store revision).answer with
    | error e =>
      rw [hanswer] at hrestored
      simpa [Except.map] using hrestored
    | ok u => simp [Except.map]

end SnapshotService

namespace Store

/-- **A store answers what its history says.** Saved bytes are there until they are overridden, and
the revision saved last is the last one until it is deleted or cleared. So what is the last revision
can be loaded and restored, and no update changes an answer about another application. -/
theorem answers_replay (history : List Update) (app : String) (revision : Revision) :
    (∀ data, (replay history).load app revision = some data ↔
      Stands (Update.Overrides app revision) history (.save app revision data)) ∧
    ((replay history).lastRevision app = some revision ↔
      ∃ data, Stands (Update.Succeeds app revision) history (.save app revision data)) ∧
    ((replay history).lastRevision app = some revision →
      ∃ data, (replay history).load app revision = some data) ∧
    (∀ (κ H : Type) [DecidableEq κ] [StateHolder H] (service : SnapshotService κ)
      (cells : Cells κ H) (visit : Traversal (String × Snapshot)) (missing : Revision),
      (service.restoreLastRevision cells visit (replay history)).answer ≠
        .error (.persistence (.revisionNotFound missing))) ∧
    ∀ update : Update, update.app ≠ app →
      (replay (history ++ [update])).load app revision = (replay history).load app revision ∧
      (replay (history ++ [update])).lastRevision app = (replay history).lastRevision app := by
  refine ⟨fun data => load_replay_eq_some_iff, lastRevision_replay_eq_some_iff,
    exists_load_of_lastRevision, ?_, fun update happ => ?_⟩
  · intro κ H _ _ service cells visit missing
    exact SnapshotService.restoreLastRevision_ne_notFound
      (fun last hlast => exists_load_of_lastRevision hlast) cells visit missing
  · obtain ⟨hload, hlast⟩ := @apply_of_app_ne (replay history) update app happ
    rw [replay_concat]
    exact ⟨hload revision, hlast⟩

end Store

end StreamScalar
