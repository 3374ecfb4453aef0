import StreamScalar.Host.Counter
import StreamScalar.Proofs.Store.History

/-!
# The last revision and the newest one

Services capture into a store and a host saves to it, deletes from it and clears it: `Activity`. What
`restoreLastRevision` restores is the revision that its application saved last, as long as that is
stored (`lastRevision_eq_some_iff_lastSaved`). When it has been deleted nothing takes its place, and
then revisions saved before it are passed over although they are there: of two revisions the older one
is not restored once the newer one is deleted (`not_restoresNewest_of_deleted`).

* `restoresNewest_iff` : the newest stored revision is restored if and only if the one saved last is
  still stored or none is.
-/

namespace StreamScalar

namespace Store

variable {history : List Update} {update next : Update} {app : String} {revision : Revision}

/-! ## The revision saved last -/

def Update.Saves (app : String) (update : Update) : Prop :=
  ∃ revision data, update = .save app revision data

/-- The last revision that an application saved, whether it is still stored or not. -/
def LastSaved (history : List Update) (app : String) (revision : Revision) : Prop :=
  ∃ data, Stands (Update.Saves app) history (.save app revision data)

theorem Update.succeeds_iff :
    update.Succeeds app revision ↔ update.Saves app ∨ update.Overrides app revision := by
  cases update with
  | save app' revision' data =>
    simp only [Succeeds, Saves, Overrides, save.injEq, exists_and_left, exists_and_right]
    simp
    tauto
  | delete app' revision' => simp [Succeeds, Saves, Overrides]
  | clear app' => simp [Succeeds, Saves, Overrides]

theorem lastSaved_concat :
    LastSaved (history ++ [next]) app revision ↔
      (∃ data, next = .save app revision data) ∨ LastSaved history app revision ∧ ¬ next.Saves app := by
  simp only [LastSaved, stands_concat, exists_or, exists_and_right]

theorem LastSaved.unique {revision' : Revision} (h : LastSaved history app revision)
    (h' : LastSaved history app revision') : revision = revision' := by
  induction history using List.reverseRecOn with
  | nil =>
    obtain ⟨data, hstands⟩ := h
    exact absurd hstands not_stands_nil
  | append_singleton history next ih =>
    rcases lastSaved_concat.mp h with ⟨data, hnext⟩ | ⟨hbefore, hnext⟩
    · rcases lastSaved_concat.mp h' with ⟨data', hnext'⟩ | ⟨-, hnext'⟩
      · rw [hnext] at hnext'
        exact (Update.save.inj hnext').2.1
      · exact absurd ⟨revision, data, hnext⟩ hnext'
    · rcases lastSaved_concat.mp h' with ⟨data', hnext'⟩ | ⟨hbefore', -⟩
      · exact absurd ⟨revision', data', hnext'⟩ hnext
      · exact ih hbefore hbefore'

theorem exists_lastSaved (h : ∃ update ∈ history, update.Saves app) :
    ∃ revision, LastSaved history app revision := by
  induction history using List.reverseRecOn with
  | nil =>
    obtain ⟨update, hmem, -⟩ := h
    simp at hmem
  | append_singleton history next ih =>
    by_cases hnext : next.Saves app
    · obtain ⟨revision, data, rfl⟩ := hnext
      exact ⟨revision, lastSaved_concat.mpr (Or.inl ⟨data, rfl⟩)⟩
    · obtain ⟨update, hmem, hsaves⟩ := h
      rcases List.mem_append.mp hmem with hmem | hmem
      · obtain ⟨revision, hlast⟩ := ih ⟨update, hmem, hsaves⟩
        exact ⟨revision, lastSaved_concat.mpr (Or.inr ⟨hlast, hnext⟩)⟩
      · rw [List.mem_singleton] at hmem
        rw [hmem] at hsaves
        exact absurd hsaves hnext

theorem lastRevision_eq_some_iff_lastSaved :
    (replay history).lastRevision app = some revision ↔
      LastSaved history app revision ∧ ∃ data, (replay history).load app revision = some data := by
  induction history using List.reverseRecOn with
  | nil =>
    constructor
    · intro h
      cases h
    · rintro ⟨-, data, h⟩
      cases h
  | append_singleton history next ih =>
    simp only [replay_concat, lastRevision_apply_eq_some_iff, load_apply_eq_some_iff,
      lastSaved_concat, Update.succeeds_iff, ih, exists_or, exists_and_right]
    tauto

/-! ## The newest stored revision -/

/-- The revision is stored, and none that is stored has been saved after it. -/
structure Newest (history : List Update) (app : String) (revision : Revision) : Prop where
  stored : ∃ data, (replay history).load app revision = some data
  latest : ∃ data, Stands
    (fun later => ∃ other bytes, later = .save app other bytes ∧ other ≠ revision ∧
      ∃ bytes, (replay history).load app other = some bytes)
    history (.save app revision data)

theorem newest_of_lastRevision (h : (replay history).lastRevision app = some revision) :
    Newest history app revision := by
  obtain ⟨⟨data, hlast⟩, hstored⟩ := lastRevision_eq_some_iff_lastSaved.mp h
  refine ⟨hstored, data, hlast.mono ?_⟩
  rintro later ⟨other, bytes, hlater, -⟩
  exact ⟨other, bytes, hlater⟩

theorem saves_of_load {data : List UInt8} (h : (replay history).load app revision = some data) :
    ∃ update ∈ history, update.Saves app := by
  obtain ⟨before, after, rfl, -⟩ := load_replay_eq_some_iff.mp h
  exact ⟨.save app revision data, by simp, revision, data, rfl⟩

/-- A stored revision is passed over if and only if the one saved last is not stored any more. -/
theorem lastRevision_eq_none_iff :
    (replay history).lastRevision app = none ↔
      ∀ revision, LastSaved history app revision → (replay history).load app revision = none := by
  constructor
  · intro h revision hlast
    by_contra hload
    have hstored := Option.ne_none_iff_exists'.mp hload
    rw [lastRevision_eq_some_iff_lastSaved.mpr ⟨hlast, hstored⟩] at h
    cases h
  · intro h
    by_contra hlast
    obtain ⟨revision, hrevision⟩ := Option.ne_none_iff_exists'.mp hlast
    obtain ⟨hsaved, data, hdata⟩ := lastRevision_eq_some_iff_lastSaved.mp hrevision
    rw [h revision hsaved] at hdata
    cases hdata

/-! ## Services and a host at one store -/

variable {κ H : Type} [StateHolder H]

/-- What happens to a store: a host updates it, and services capture into it. -/
inductive Activity (κ H : Type) where
  | update (update : Update)
  | persist (service : SnapshotService κ) (cells : Cells κ H) (visit : Traversal (String × κ))
    (write : Traversal (String × Snapshot)) (revision : Revision)

def perform (store : Store) : Activity κ H → Store
  | .update update => store.apply update
  | .persist service cells visit write revision =>
    (service.persist cells visit write revision store).next

/-- The updates that an activity comes to: a capture is a save of what was captured, if nothing
failed. -/
def Activity.updates : Activity κ H → List Update
  | .update update => [update]
  | .persist service cells visit write revision =>
    match SnapshotService.capture cells (visit.arrange service.holders.rows) with
    | .ok captured =>
      [.save service.app revision (Codec.checkpointRows.encode (write.arrange captured))]
    | .error _ => []

theorem perform_eq_foldl (store : Store) (activity : Activity κ H) :
    store.perform activity = activity.updates.foldl apply store := by
  cases activity with
  | update update => rfl
  | persist service cells visit write revision =>
    rw [perform, Activity.updates, SnapshotService.persist]
    cases SnapshotService.capture cells (visit.arrange service.holders.rows) <;> rfl

def ofActivities (activities : List (Activity κ H)) : Store := activities.foldl perform empty

theorem ofActivities_eq_replay (activities : List (Activity κ H)) :
    ofActivities activities = replay (activities.flatMap Activity.updates) := by
  rw [ofActivities, replay, List.foldl_flatMap]
  congr 1
  funext store activity
  exact perform_eq_foldl store activity

variable [DecidableEq κ]

/-- Restoring the last revision finds nothing if and only if nothing is stored, and otherwise
restores the newest revision that is. -/
def RestoresNewest (activities : List (Activity κ H)) (service : SnapshotService κ)
    (cells : Cells κ H) (visit : Traversal (String × Snapshot)) : Prop :=
  ((service.restoreLastRevision cells visit (ofActivities activities)).answer = .ok none ↔
    ∀ revision, (ofActivities activities).load service.app revision = none) ∧
  ((∃ revision, (ofActivities activities).load service.app revision ≠ none) →
    ∃ revision, Newest (activities.flatMap Activity.updates) service.app revision ∧
      service.restoreLastRevision cells visit (ofActivities activities) =
        (service.restoreRevision cells visit (ofActivities activities) revision).map
          fun answer => answer.map fun () => some revision)

theorem restoreLastRevision_answer_eq_none_iff {service : SnapshotService κ} {store : Store}
    {cells : Cells κ H} {visit : Traversal (String × Snapshot)} :
    (service.restoreLastRevision cells visit store).answer = .ok none ↔
      store.lastRevision service.app = none := by
  rw [SnapshotService.restoreLastRevision]
  cases store.lastRevision service.app with
  | none => simp
  | some revision =>
    dsimp only [Step.map]
    cases (service.restoreRevision cells visit store revision).answer <;> simp [Except.map]

/-- **When the newest revision is restored**: if and only if the revision that the application saved
last is still stored, or none of its revisions is. -/
theorem restoresNewest_iff (activities : List (Activity κ H)) (service : SnapshotService κ)
    (cells : Cells κ H) (visit : Traversal (String × Snapshot)) :
    RestoresNewest activities service cells visit ↔
      ∀ revision, LastSaved (activities.flatMap Activity.updates) service.app revision →
        (ofActivities activities).load service.app revision ≠ none ∨
          ∀ other, (ofActivities activities).load service.app other = none := by
  rw [RestoresNewest, restoreLastRevision_answer_eq_none_iff, ofActivities_eq_replay]
  generalize activities.flatMap Activity.updates = history
  constructor
  · rintro ⟨hnone, -⟩ revision hlast
    by_contra hneither
    push Not at hneither
    obtain ⟨hgone, other, hother⟩ := hneither
    have hpassed : (replay history).lastRevision service.app = none := by
      refine lastRevision_eq_none_iff.mpr fun revision' hlast' => ?_
      rw [← hlast.unique hlast']
      exact hgone
    exact hother (hnone.mp hpassed other)
  · intro h
    -- as long as something is stored, the revision saved last is, and it is the last one
    have hstored : ∀ other, (replay history).load service.app other ≠ none →
        ∃ revision, (replay history).lastRevision service.app = some revision := by
      intro other hother
      obtain ⟨data, hdata⟩ := Option.ne_none_iff_exists'.mp hother
      obtain ⟨revision, hlast⟩ := exists_lastSaved (saves_of_load hdata)
      rcases h revision hlast with hload | hnothing
      · exact ⟨revision, lastRevision_eq_some_iff_lastSaved.mpr
          ⟨hlast, Option.ne_none_iff_exists'.mp hload⟩⟩
      · exact absurd (hnothing other) hother
    constructor
    · constructor
      · intro hnone other
        by_contra hother
        obtain ⟨revision, hrevision⟩ := hstored other hother
        rw [hnone] at hrevision
        cases hrevision
      · intro hnothing
        exact lastRevision_eq_none_iff.mpr fun revision _ => hnothing revision
    · rintro ⟨other, hother⟩
      obtain ⟨revision, hrevision⟩ := hstored other hother
      refine ⟨revision, newest_of_lastRevision hrevision, ?_⟩
      rw [SnapshotService.restoreLastRevision, hrevision]

/-- Of two captures the newer one is deleted, and then the older one is not restored. -/
theorem not_restoresNewest_of_deleted :
    let service : SnapshotService Nat := ⟨"app", Table.empty.insert "c" 0⟩
    let cells : UInt64 → Cells Nat Counter := fun value _ => ⟨value, none⟩
    let activities : List (Activity Nat Counter) :=
      [.persist service (cells 1) .asListed .asListed (.made 0),
        .persist service (cells 2) .asListed .asListed (.made 1),
        .update (.delete "app" (.made 1))]
    (service.restoreLastRevision (cells 3) .asListed (ofActivities activities)).answer = .ok none ∧
      (service.restoreRevision (cells 3) .asListed (ofActivities activities) (.made 0)).answer =
        .ok () ∧
      ¬ RestoresNewest activities service (cells 3) .asListed := by
  intro service cells activities
  have hanswer : (service.restoreLastRevision (cells 3) .asListed (ofActivities activities)).answer =
      .ok none := rfl
  have hstored : (ofActivities activities).load service.app (.made 0) ≠ none := by decide
  refine ⟨hanswer, by decide +kernel, ?_⟩
  rintro ⟨hnone, -⟩
  exact hstored (hnone.mp hanswer (.made 0))

end Store

end StreamScalar
