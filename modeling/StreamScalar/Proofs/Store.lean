import StreamScalar.Store

/-!
# What a store answers after an update

Each update seen through `load` and `lastRevision`: it concerns the revisions that it names and no
others.
-/

namespace StreamScalar

namespace Store

variable (store : Store) (app : String) (revision : Revision)

theorem load_save (data : List UInt8) (app' : String) (revision' : Revision) :
    (store.save app revision data).next.load app' revision' =
      if app = app' ∧ revision = revision' then some data else store.load app' revision' := by
  by_cases happ : app = app'
  · subst happ
    by_cases hrevision : revision = revision'
    · simp [save, load, hrevision]
    · cases hold : store.revisions.get? app <;> simp [save, load, hrevision, hold]
  · simp [save, load, happ]

theorem load_delete (app' : String) (revision' : Revision) :
    (store.delete app revision).load app' revision' =
      if app = app' ∧ revision = revision' then none else store.load app' revision' := by
  by_cases happ : app = app'
  · subst happ
    cases hold : store.revisions.get? app with
    | none => simp [delete, load, hold]
    | some saved => by_cases hrevision : revision = revision' <;> simp [delete, load, hold, hrevision]
  · cases hold : store.revisions.get? app <;> simp [delete, load, hold, happ]

theorem load_clear (app' : String) (revision' : Revision) :
    (store.clear app).load app' revision' =
      if app = app' then none else store.load app' revision' := by
  by_cases happ : app = app' <;> simp [clear, load, happ]

theorem lastRevision_save (data : List UInt8) (app' : String) :
    (store.save app revision data).next.lastRevision app' =
      if app = app' then some revision else store.lastRevision app' := by
  simp [save, lastRevision]

theorem lastRevision_delete (app' : String) :
    (store.delete app revision).lastRevision app' =
      if app = app' ∧ store.lastRevision app = some revision then none
      else store.lastRevision app' := by
  by_cases hlast : store.last.get? app = some revision
  · simp [delete, lastRevision, hlast]
  · simp [delete, lastRevision, hlast]

theorem lastRevision_clear (app' : String) :
    (store.clear app).lastRevision app' =
      if app = app' then none else store.lastRevision app' := by
  simp [clear, lastRevision]

end Store

end StreamScalar
