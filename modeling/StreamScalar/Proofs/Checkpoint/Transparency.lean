import StreamScalar.Proofs.Checkpoint.Deployment
import StreamScalar.Proofs.Checkpoint.RunningSum

/-!
# Checkpoints are transparent

A capture that has succeeded can be restored after whatever happens meanwhile, as long as nobody
touches its revision and captured names are given only to functions of the same origin (`Spares`).
The call sites then stand where they stood, with the functions as they were captured, and answer
accordingly from there on (`Recovered`).

* `restore_of_persist` : for every run before the capture and every run after it.
-/

namespace StreamScalar

namespace Deployment

variable {κ F : Type} [DecidableEq κ] [ScalarFunction F] {blueprints : κ → Blueprint F}
  {naming : Nat → Revision}

/-- Actions that leave alone the revision of a capture and the origins of the captured names. -/
def Spares (blueprints : κ → Blueprint F) (captured : Table String κ) (revision : Revision)
    (d : Deployment κ F) : Action κ → Prop
  | .register id cell =>
    Distinctly d (.register id cell) ∧
      ∀ before, captured.get? id = some before →
        (blueprints cell).origin = (blueprints before).origin
  | .save app other _ => ¬ (app = d.service.app ∧ other = revision)
  | .delete app other => ¬ (app = d.service.app ∧ other = revision)
  | .clear app => app ≠ d.service.app
  | .call .. | .persist .. | .restore .. | .restoreLast _ => True

omit [DecidableEq κ] [ScalarFunction F] in
theorem Spares.distinctly {captured : Table String κ} {revision : Revision} {d : Deployment κ F}
    {action : Action κ} (h : Spares blueprints captured revision d action) : Distinctly d action := by
  cases action with
  | register id cell => exact h.1
  | _ => trivial

/-- The bytes of a capture are in the store, no later capture takes its name, and each captured name
stands for a function of the same origin. -/
structure Holds (naming : Nat → Revision) (blueprints : κ → Blueprint F)
    (captured : Table String κ) (number : Nat) (data : List UInt8) (d : Deployment κ F) :
    Prop where
  saved : d.store.load d.service.app (naming number) = some data
  earlier : number < d.captures
  registered : ∀ id before, captured.get? id = some before →
    ∃ cell, d.service.holders.get? id = some cell ∧
      (blueprints cell).origin = (blueprints before).origin

variable {captured : Table String κ} {number : Nat} {data : List UInt8} {d : Deployment κ F}

theorem Holds.step (hnaming : Function.Injective naming)
    (h : Holds naming blueprints captured number data d) {action : Action κ}
    (hspares : Spares blueprints captured (naming number) d action) :
    Holds naming blueprints captured number data (d.step naming action) := by
  cases action with
  | call cell call => exact ⟨h.saved, h.earlier, h.registered⟩
  | register id cell =>
    refine ⟨h.saved, h.earlier, fun id' before hbefore => ?_⟩
    show ∃ cell', (d.service.holders.insert id cell).get? id' = some cell' ∧ _
    rw [Table.get?_insert]
    by_cases hid : id = id'
    · subst hid
      exact ⟨cell, if_pos rfl, hspares.2 before hbefore⟩
    · rw [if_neg hid]
      exact h.registered id' before hbefore
  | persist visit write =>
    have hnumber := h.earlier
    refine ⟨?_, hnumber.trans_le SnapshotService.le_persistNext, h.registered⟩
    refine (SnapshotService.load_persist d.service.app fun hsame => ?_).trans h.saved
    have hcaptures : number = d.captures := hnaming hsame
    omega
  | restore visit revision => exact ⟨h.saved, h.earlier, h.registered⟩
  | restoreLast visit => exact ⟨h.saved, h.earlier, h.registered⟩
  | save app revision bytes =>
    refine ⟨?_, h.earlier, h.registered⟩
    show (d.store.save app revision bytes).next.load d.service.app (naming number) = _
    rw [Store.load_save, if_neg hspares]
    exact h.saved
  | delete app revision =>
    refine ⟨?_, h.earlier, h.registered⟩
    show (d.store.delete app revision).load d.service.app (naming number) = _
    rw [Store.load_delete, if_neg hspares]
    exact h.saved
  | clear app =>
    refine ⟨?_, h.earlier, h.registered⟩
    show (d.store.clear app).load d.service.app (naming number) = _
    rw [Store.load_clear, if_neg hspares]
    exact h.saved

omit [DecidableEq κ] in
theorem holds_of_persist (blueprints : κ → Blueprint F) {visit : Traversal (String × κ)}
    {write : Traversal (String × Snapshot)} {report : PersistReport}
    (h : (d.persist naming visit write).answer = .ok report) :
    report.revision = naming d.captures ∧
      ∃ data, Holds naming blueprints d.service.holders d.captures data
        (d.persist naming visit write).next := by
  obtain ⟨hrevision, hcaptures⟩ := SnapshotService.lt_persistNext h
  obtain ⟨data, hdata⟩ := SnapshotService.exists_saved h
  exact ⟨hrevision, data, hdata, hcaptures, fun id before hbefore => ⟨before, hbefore, rfl⟩⟩

theorem Holds.run (hnaming : Function.Injective naming)
    (h : Holds naming blueprints captured number data d) {actions : List (Action κ)}
    (halong : Along naming (Spares blueprints captured (naming number)) d actions) :
    Holds naming blueprints captured number data (d.run naming actions) :=
  halong.preserves (fun _ _ hspares hholds => hholds.step hnaming hspares) h

/-! ## Restoring a capture -/

/-- A call site that stands where it stood, with the function as it was captured. -/
structure Recovered [HasMath F] (restorable : Prop) (captured now restored : CallSite F) : Prop where
  function : SameState captured.function restored.function
  exactly : restorable → restored = { now with function := captured.function }
  position : restored.state = now.state
  arguments : restored.arguments = now.arguments
  qualifiedName : restored.qualifiedName = now.qualifiedName
  /-- It answers like any call site with the captured function at that position. -/
  answers : ∀ site : CallSite F, site.function = captured.function → site.state = now.state →
    site.arguments = now.arguments → ∀ calls,
      (restored.run calls).answer.map (fun entry => entry.2.unnamed) =
        (site.run calls).answer.map fun entry => entry.2.unnamed

variable [HasMath F] [LawfulMath F]

theorem recovered_deserializeState {contexts : AppContext → Prop} {origin : Origin F}
    (horigin : origin.IsMath ∨ origin.Restorable contexts) {before now : CallSite F}
    (hbefore : origin.Instance contexts before.function)
    (hnow : origin.Instance contexts now.function) {snapshot : Snapshot}
    (hsnapshot : StateHolder.serializeState before = .ok snapshot) :
    (StateHolder.deserializeState now snapshot).answer = .ok () ∧
      Recovered (origin.Restorable contexts) before now
        (StateHolder.deserializeState now snapshot).next := by
  obtain ⟨hanswer, hstate⟩ := Origin.restore_sameState horigin hbefore hnow hsnapshot
  refine ⟨hanswer, hstate, fun hrestorable => ?_, rfl, rfl, rfl, ?_⟩
  · have hexact := (hrestorable before.function now.function snapshot hbefore hnow hsnapshot).2
    exact congrArg (fun function => { now with function }) hexact
  · intro site hfunction hposition harguments calls
    have hsame : CallSite.SameSite site (StateHolder.deserializeState now snapshot).next := by
      refine ⟨?_, harguments, hposition⟩
      rw [hfunction]
      exact hstate
    exact (CallSite.run_sameSite hsame calls).symm

omit [DecidableEq κ] in
theorem Holds.recovered {p now : Deployment κ F}
    (h : Holds naming blueprints p.service.holders number data now) (hp : Sound blueprints p)
    (hnow : Sound blueprints now) {id : String} {before cell : κ}
    (horigin : (blueprints before).origin.IsMath ∨
      (blueprints before).origin.Restorable (Blueprint.Contexts blueprints))
    (hbefore : p.service.holders.get? id = some before)
    (hcell : now.service.holders.get? id = some cell) {snapshot : Snapshot}
    (hsnapshot : StateHolder.serializeState (p.sites before) = .ok snapshot) :
    (StateHolder.deserializeState (now.sites cell) snapshot).answer = .ok () ∧
      Recovered ((blueprints before).origin.Restorable (Blueprint.Contexts blueprints))
        (p.sites before) (now.sites cell)
        (StateHolder.deserializeState (now.sites cell) snapshot).next := by
  -- the name may stand for another cell by now, but that one has the same origin
  obtain ⟨cell', hcell', hsame⟩ := h.registered id before hbefore
  obtain rfl : cell' = cell := Option.some_inj.mp (hcell'.symm.trans hcell)
  have hinstance := hnow.origins cell'
  rw [hsame] at hinstance
  exact recovered_deserializeState horigin (hp.origins before) hinstance hsnapshot

/-- **Checkpoints are transparent.** Let no two captures be given one name. Whatever has happened
before a capture and whatever happens after it, its revision can be restored, if its bytes have had
room in memory: each call site that stands under a captured name then has the function that was
captured under that name, and all the others are left alone. -/
theorem restore_of_persist (hnaming : Function.Injective naming) {p : Deployment κ F}
    (hp : Arises naming blueprints p)
    {visit : Traversal (String × κ)} {write : Traversal (String × Snapshot)} {report : PersistReport}
    (hreport : (p.persist naming visit write).answer = .ok report)
    (hsize : ∀ data, (p.persist naming visit write).next.store.load p.service.app report.revision =
      some data → data.length < 2 ^ 64)
    (horigins : ∀ id cell, p.service.holders.get? id = some cell →
      (blueprints cell).origin.IsMath ∨
        (blueprints cell).origin.Restorable (Blueprint.Contexts blueprints))
    {after : List (Action κ)}
    (hafter : Along naming (Spares blueprints p.service.holders report.revision)
      (p.persist naming visit write).next after) (order : Traversal (String × Snapshot)) :
    let now := (p.persist naming visit write).next.run naming after
    let restored := now.restore order report.revision
    restored.answer = .ok () ∧
      (∀ id ∈ report.components, ∃ before cell, p.service.holders.get? id = some before ∧
        now.service.holders.get? id = some cell ∧
        Recovered ((blueprints before).origin.Restorable (Blueprint.Contexts blueprints))
          (p.sites before) (now.sites cell) (restored.next.sites cell)) ∧
      ∀ cell, (∀ id ∈ report.components, now.service.holders.get? id ≠ some cell) →
        restored.next.sites cell = now.sites cell := by
  intro now restored
  obtain ⟨hrevision, data, hsaved⟩ := holds_of_persist blueprints hreport
  rw [hrevision] at hsize hafter
  have hholds : Holds naming blueprints p.service.holders p.captures data now :=
    hsaved.run hnaming hafter
  have hbefore : Sound blueprints p := hp.sound
  have hpersisted : Sound blueprints (p.persist naming visit write).next :=
    ⟨hbefore.origins, hbefore.distinct⟩
  have hnow : Sound blueprints now :=
    hpersisted.run (hafter.imp fun _ _ hspares => hspares.distinctly)
  obtain ⟨found, hcheckpoint, hfound⟩ :=
    SnapshotService.checkpoint_of_persist hreport hsaved.saved (hsize data hsaved.saved) hholds.saved
  have hok : ∀ id snapshot cell, found.get? id = some snapshot →
      now.service.holders.get? id = some cell →
      (StateHolder.deserializeState (now.sites cell) snapshot).answer = .ok () := by
    intro id snapshot cell hrow hcell
    obtain ⟨before, hid, hsnapshot⟩ := (hfound id snapshot).mp hrow
    exact (hholds.recovered hbefore hnow (horigins id before hid) hid hcell hsnapshot).1
  obtain ⟨hanswer, hreached, hframe⟩ :=
    SnapshotService.restoreRevision_of_checkpoint hcheckpoint hnow.distinct hok order
  have hrestored : restored = now.restore order (naming p.captures) := by rw [← hrevision]
  rw [hrestored]
  refine ⟨hanswer, fun id hid => ?_, fun cell hothers => hframe cell fun id snapshot hrow => ?_⟩
  · obtain ⟨before, hid⟩ := (SnapshotService.mem_components_iff hreport).mp hid
    obtain ⟨snapshot, hsnapshot⟩ := SnapshotService.exists_snapshot hreport hid
    obtain ⟨cell, hcell, -⟩ := hholds.registered id before hid
    have hrow : found.get? id = some snapshot := (hfound id snapshot).mpr ⟨before, hid, hsnapshot⟩
    have hsite :=
      (hholds.recovered hbefore hnow (horigins id before hid) hid hcell hsnapshot).2
    rw [← hreached id snapshot cell hrow hcell] at hsite
    exact ⟨before, cell, hid, hcell, hsite⟩
  · obtain ⟨before, hid, -⟩ := (hfound id snapshot).mp hrow
    exact hothers id ((SnapshotService.mem_components_iff hreport).mpr ⟨before, hid⟩)

/-! ## A summing call site that is replaced -/

/-- A rounding call site, a summing one and another summing one that is to replace it. -/
def replacing : Fin 3 → Blueprint HostFunction
  | 0 => ⟨.math (.create .round), [.attributeAt 0 .float], {}⟩
  | 1 => ⟨.runningSum {}, [.attributeAt 0 .int], {}⟩
  | 2 => ⟨.runningSum {}, [.attributeAt 1 .int], {}⟩

def replacingSites : Fin 3 → CallSite HostFunction
  | 0 => ⟨.math (.validated .round {} [.float]), [.attributeAt 0 .float], "math:round", .validated⟩
  | 1 => ⟨.runningSum ⟨"math:runningSum()", some .int, {}⟩, [.attributeAt 0 .int],
      "math:runningSum", .validated⟩
  | 2 => ⟨.runningSum ⟨"math:runningSum()", some .int, {}⟩, [.attributeAt 1 .int],
      "math:runningSum", .validated⟩

def summed : Deployment (Fin 3) HostFunction :=
  (opened replacingSites "app" .empty 0).run .made
    [.register "round" 0, .register "sum" 1, .call 1 .start, .call 1 (.execute [some (.int 7)])]

/-- The summing call site goes on and is replaced, while others use the store. -/
def replaced : List (Action (Fin 3)) :=
  [.call 1 (.execute [some (.int 100)]), .register "sum" 2, .persist .asListed .asListed,
    .save "app" (.chosen "0") [], .clear "other"]

theorem mem_of_holders_summed {id : String} {cell : Fin 3}
    (h : summed.service.holders.get? id = some cell) :
    (id, cell) ∈ [("round", (0 : Fin 3)), ("sum", 1)] :=
  (Table.mem_rows_iff _).mpr h

theorem arises_summed : Arises .made replacing summed := by
  refine ⟨replacingSites, "app", .empty, 0, _, fun cell => ?_, ?_, rfl⟩
  · match cell with
    | 0 | 1 | 2 => rfl
  · refine ⟨fun id h => (by cases h), fun id h => ?_, trivial, trivial, trivial⟩
    have hmem : (id, (1 : Fin 3)) ∈ [("round", (0 : Fin 3))] := (Table.mem_rows_iff _).mpr h
    simp at hmem

theorem along_replaced :
    Along .made (Spares replacing summed.service.holders (.made 0))
      (summed.persist .made .asListed .asListed).next replaced := by
  refine ⟨trivial, ⟨fun id h => ?_, fun before h => ?_⟩, trivial, ?_, ?_, trivial⟩
  · have hmem := mem_of_holders_summed h
    simp at hmem
  · obtain rfl : before = 1 := by simpa using mem_of_holders_summed h
    rfl
  · rintro ⟨-, hrevision⟩
    cases hrevision
  · show "other" ≠ "app"
    decide

theorem restorable_replacing {cell : Fin 3} (hcell : (replacing cell).function = .runningSum {}) :
    (replacing cell).origin.Restorable (Blueprint.Contexts replacing) := by
  have hdefault : ∀ ctx, Blueprint.Contexts replacing ctx → ctx = {} := by
    rintro ctx ⟨other, rfl⟩
    match other with
    | 0 | 1 | 2 => rfl
  refine Origin.restorable_runningSum hcell fun ctx ctx' h h' => ?_
  rw [hdefault ctx h, hdefault ctx' h']

/-- The sum that was captured from the replaced call site is what its replacement holds, which has
not been started. -/
theorem restore_of_persist_replaced :
    Function.Injective Revision.made ∧ Arises .made replacing summed ∧
      (summed.persist .made .asListed .asListed).answer = .ok ⟨.made 0, 2, ["round", "sum"]⟩ ∧
      Along .made (Spares replacing summed.service.holders (.made 0))
        (summed.persist .made .asListed .asListed).next replaced ∧
      let now := (summed.persist .made .asListed .asListed).next.run .made replaced
      let restored := now.restore .asListed (.made 0)
      restored.answer = .ok () ∧
        (now.sites 2).function ≠ (summed.sites 1).function ∧
        (restored.next.sites 2).function = (summed.sites 1).function ∧
        (restored.next.sites 2).state = .validated := by
  have hnaming : Function.Injective Revision.made := fun _ _ => Revision.made.inj
  have hreport : (summed.persist .made .asListed .asListed).answer =
      .ok ⟨.made 0, 2, ["round", "sum"]⟩ := rfl
  have hsize : ∀ data, (summed.persist .made .asListed .asListed).next.store.load "app" (.made 0) =
      some data → data.length < 2 ^ 64 := by
    have hall : ((summed.persist .made .asListed .asListed).next.store.load "app" (.made 0)).all
      (fun data => decide (data.length < 2 ^ 64)) = true := by decide
    intro data hdata
    rw [hdata] at hall
    exact of_decide_eq_true hall
  have horigins : ∀ id cell, summed.service.holders.get? id = some cell →
      (replacing cell).origin.IsMath ∨
        (replacing cell).origin.Restorable (Blueprint.Contexts replacing) := by
    intro id cell _
    match cell with
    | 0 => exact Or.inl ⟨.round, rfl⟩
    | 1 | 2 => exact Or.inr (restorable_replacing rfl)
  obtain ⟨hanswer, hrecovered, -⟩ :=
    restore_of_persist hnaming arises_summed hreport hsize horigins along_replaced .asListed
  obtain ⟨before, cell, hbefore, hcell, hsite⟩ := hrecovered "sum" (by decide)
  obtain rfl : before = 1 := by simpa using mem_of_holders_summed hbefore
  obtain rfl : cell = 2 := (Option.some_inj.mp hcell).symm
  have hexact := hsite.exactly (restorable_replacing rfl)
  refine ⟨hnaming, arises_summed, hreport, along_replaced, hanswer, ?_, ?_, ?_⟩
  · decide +kernel
  · rw [hexact]
  · rw [hexact]
    rfl

end Deployment

end StreamScalar
