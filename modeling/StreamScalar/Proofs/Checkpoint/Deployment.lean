import StreamScalar.Proofs.CallSite.Run
import StreamScalar.Proofs.Checkpoint.Origin
import StreamScalar.Proofs.SnapshotService

/-!
# Deployments

The call sites of an application, the snapshot service that some of them are registered with and the
store that the service saves to, under everything that can happen to them: `Action`. All call sites
that an application ever uses are there from the outset, compiled from their blueprints; one that is
built later is one that nothing has reached yet. How captures are named is left open.

* `Along.preserves` : what no single admitted action breaks, no run of them breaks.
* `Arises.sound` : in every run every function is an instance of its origin, and no call site stands
  under two names, if none is registered under a second one.
-/

namespace StreamScalar

/-- What a call site is compiled from. -/
structure Blueprint (F : Type) where
  function : F
  arguments : List Argument
  ctx : AppContext

def Blueprint.origin {F : Type} (blueprint : Blueprint F) : Origin F :=
  ⟨blueprint.function, blueprint.arguments.map Argument.declaredType⟩

def Blueprint.Contexts {κ F : Type} (blueprints : κ → Blueprint F) (ctx : AppContext) : Prop :=
  ∃ cell, (blueprints cell).ctx = ctx

/-- Call sites by the names of their cells, a snapshot service and its store. -/
structure Deployment (κ F : Type) where
  sites : Cells κ (CallSite F)
  service : SnapshotService κ
  store : Store
  captures : Nat

namespace Deployment

/-- What can happen to a deployment. Stores are shared, so others save and delete as well. -/
inductive Action (κ : Type) where
  | call (cell : κ) (call : CallSite.Call)
  | register (id : String) (cell : κ)
  | persist (visit : Traversal (String × κ)) (write : Traversal (String × Snapshot))
  | restore (visit : Traversal (String × Snapshot)) (revision : Revision)
  | restoreLast (visit : Traversal (String × Snapshot))
  | save (app : String) (revision : Revision) (data : List UInt8)
  | delete (app : String) (revision : Revision)
  | clear (app : String)

variable {κ F : Type} [DecidableEq κ] [ScalarFunction F]

/-- Captures all registered call sites. Captures are named by their numbers. -/
def persist (naming : Nat → Revision) (d : Deployment κ F) (visit : Traversal (String × κ))
    (write : Traversal (String × Snapshot)) :
    Step (Deployment κ F) (Except PersistenceError PersistReport) :=
  (d.service.persistNext d.sites visit write naming d.captures d.store).lift
    fun (store, captures) => { d with store, captures }

def restore (d : Deployment κ F) (visit : Traversal (String × Snapshot)) (revision : Revision) :
    Step (Deployment κ F) (Except Error Unit) :=
  (d.service.restoreRevision d.sites visit d.store revision).lift fun sites => { d with sites }

def step (naming : Nat → Revision) (d : Deployment κ F) : Action κ → Deployment κ F
  | .call cell call => { d with sites := d.sites.set cell ((d.sites cell).perform call).next }
  | .register id cell => { d with service := (d.service.register id cell).next }
  | .persist visit write => (d.persist naming visit write).next
  | .restore visit revision => (d.restore visit revision).next
  | .restoreLast visit =>
    { d with sites := (d.service.restoreLastRevision d.sites visit d.store).next }
  | .save app revision data => { d with store := (d.store.save app revision data).next }
  | .delete app revision => { d with store := d.store.delete app revision }
  | .clear app => { d with store := d.store.clear app }

def run (naming : Nat → Revision) (d : Deployment κ F) (actions : List (Action κ)) :
    Deployment κ F :=
  actions.foldl (step naming) d

/-- Every action of a run is admitted where it happens. -/
def Along (naming : Nat → Revision) (admits : Deployment κ F → Action κ → Prop)
    (d : Deployment κ F) : List (Action κ) → Prop
  | [] => True
  | action :: rest => admits d action ∧ Along naming admits (d.step naming action) rest

variable {naming : Nat → Revision}

theorem Along.preserves {admits : Deployment κ F → Action κ → Prop} {P : Deployment κ F → Prop}
    (hstep : ∀ d action, admits d action → P d → P (d.step naming action)) {d : Deployment κ F}
    {actions : List (Action κ)} (halong : Along naming admits d actions) (h : P d) :
    P (d.run naming actions) := by
  induction actions generalizing d with
  | nil => exact h
  | cons action rest ih => exact ih halong.2 (hstep d action halong.1 h)

theorem Along.imp {admits admits' : Deployment κ F → Action κ → Prop}
    (himp : ∀ d action, admits d action → admits' d action) {d : Deployment κ F}
    {actions : List (Action κ)} (h : Along naming admits d actions) :
    Along naming admits' d actions := by
  induction actions generalizing d with
  | nil => trivial
  | cons action rest ih => exact ⟨himp d action h.1, ih h.2⟩

/-! ## What holds in every run -/

/-- No call site is registered under a second name. -/
def Distinctly (d : Deployment κ F) : Action κ → Prop
  | .register id cell => ∀ id', d.service.holders.get? id' = some cell → id' = id
  | _ => True

/-- Every function is an instance of its origin, and no call site stands under two names. -/
structure Sound (blueprints : κ → Blueprint F) (d : Deployment κ F) : Prop where
  origins : ∀ cell,
    (blueprints cell).origin.Instance (Blueprint.Contexts blueprints) (d.sites cell).function
  distinct : SnapshotService.Distinct d.service.holders

variable {blueprints : κ → Blueprint F} {d : Deployment κ F}

theorem Sound.step (h : Sound blueprints d) {action : Action κ} (hadmitted : Distinctly d action) :
    Sound blueprints (d.step naming action) := by
  -- restoring any snapshot into any call site leaves an instance of its origin
  have hrestore : ∀ (cell : κ) (site : CallSite F) (snapshot : Snapshot),
      (blueprints cell).origin.Instance (Blueprint.Contexts blueprints) site.function →
      (blueprints cell).origin.Instance (Blueprint.Contexts blueprints)
        (StateHolder.deserializeState site snapshot).next.function :=
    fun cell site snapshot horigin => horigin.restore snapshot
  cases action with
  | call cell call =>
    refine ⟨fun cell' => ?_, h.distinct⟩
    show Origin.Instance _ (blueprints cell').origin (d.sites.set cell _ cell').function
    by_cases hsame : cell' = cell
    · subst hsame
      rw [Cells.set_self]
      exact (h.origins cell').perform call
    · rw [Cells.set_of_ne _ _ hsame]
      exact h.origins cell'
  | register id cell => exact ⟨h.origins, h.distinct.insert hadmitted⟩
  | persist visit write => exact ⟨h.origins, h.distinct⟩
  | restore visit revision =>
    exact ⟨SnapshotService.restoreRevision_preserves hrestore h.origins d.service visit d.store
      revision, h.distinct⟩
  | restoreLast visit =>
    exact ⟨SnapshotService.restoreLastRevision_preserves hrestore h.origins d.service visit d.store,
      h.distinct⟩
  | save app revision data => exact ⟨h.origins, h.distinct⟩
  | delete app revision => exact ⟨h.origins, h.distinct⟩
  | clear app => exact ⟨h.origins, h.distinct⟩

theorem Sound.run (h : Sound blueprints d) {actions : List (Action κ)}
    (halong : Along naming Distinctly d actions) : Sound blueprints (d.run naming actions) :=
  halong.preserves (fun _ _ hadmitted hsound => hsound.step hadmitted) h

/-- Call sites and a service with which none of them is registered. -/
def opened (sites : Cells κ (CallSite F)) (app : String) (store : Store) (captures : Nat) :
    Deployment κ F :=
  ⟨sites, .ofApp app, store, captures⟩

/-- Deployments that some run leads to, from call sites as they are compiled. -/
def Arises (naming : Nat → Revision) (blueprints : κ → Blueprint F) (d : Deployment κ F) : Prop :=
  ∃ sites app store captures actions,
    (∀ cell, (CallSite.compile (blueprints cell).function (blueprints cell).arguments
      (blueprints cell).ctx).answer = .ok (sites cell)) ∧
    Along naming Distinctly (opened sites app store captures) actions ∧
    d = (opened sites app store captures).run naming actions

theorem Arises.sound (h : Arises naming blueprints d) : Sound blueprints d := by
  obtain ⟨sites, app, store, captures, actions, hcompiled, halong, rfl⟩ := h
  refine Sound.run ⟨fun cell => ?_, fun id id' cell hcell => (by cases hcell)⟩ halong
  obtain ⟨hanswer, hsite⟩ := CallSite.compile_eq_ok_iff.mp (hcompiled cell)
  show Origin.Instance _ (blueprints cell).origin (sites cell).function
  rw [hsite]
  exact .validate rfl ⟨cell, rfl⟩ hanswer

end Deployment

end StreamScalar
