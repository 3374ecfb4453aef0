import Mathlib.Data.List.Induction
import StreamScalar.Function.Math
import StreamScalar.Proofs.CallSite.Run

/-!
# The contract that a call site keeps

A function at a call site is validated once and before all else, started at most once, executed only
between its start and its stop and stopped at most once, whatever the host calls and in whatever
order. To see what a function receives, `Recorded` writes down each call in front of it; the
recorder changes no answer (`run_forget`). The invariant `Heard` ties what was received to the
lifecycle position, and `StandsBy` the position to what the host has been answered.

* `contract_of_compile` : both, and what is refused, for every run of every compiled call site.
-/

namespace StreamScalar

/-- A call on a scalar function that may change it. -/
inductive FunctionCall where
  | validate (arguments : List Argument) (ctx : AppContext)
  | start
  | stop
  | execute (data : Row)
  | restore (snapshot : Snapshot)
  deriving DecidableEq

/-- Whether a call restores a captured state, as it may at any time. -/
def FunctionCall.isRestore : FunctionCall → Bool
  | restore _ => true
  | validate .. | start | stop | execute _ => false

/-- A function and the calls it has received, the first one first. -/
structure Recorded (F : Type) where
  function : F
  received : List FunctionCall

namespace Recorded

variable {F : Type} [ScalarFunction F]

def ofFunction (f : F) : Recorded F := ⟨f, []⟩

/-- The recorder after one more call. -/
def hear (r : Recorded F) (call : FunctionCall) (f : F) : Recorded F :=
  ⟨f, r.received ++ [call]⟩

instance : ScalarFunction (Recorded F) where
  name r := ScalarFunction.name r.function
  validate r arguments ctx :=
    (ScalarFunction.validate r.function arguments ctx).lift (r.hear (.validate arguments ctx))
  returnType r := ScalarFunction.returnType r.function
  execute r data := (ScalarFunction.execute r.function data).lift (r.hear (.execute data))
  start r := r.hear .start (ScalarFunction.start r.function)
  stop r := r.hear .stop (ScalarFunction.stop r.function)
  snapshot r := ScalarFunction.snapshot r.function
  restore r s := (ScalarFunction.restore r.function s).lift (r.hear (.restore s))

end Recorded

namespace CallSite

variable {F : Type} [ScalarFunction F]

/-- The call site without its recorder. -/
def forget (site : CallSite (Recorded F)) : CallSite F :=
  { site with function := site.function.function }

theorem perform_forget (site : CallSite (Recorded F)) (call : Call) :
    (site.perform call).lift forget = site.forget.perform call := by
  obtain ⟨⟨f, received⟩, arguments, name, state⟩ := site
  cases call <;> cases state <;> rfl

theorem run_forget (site : CallSite (Recorded F)) (calls : List Call) :
    (site.run calls).lift forget = site.forget.run calls := by
  induction calls generalizing site with
  | nil => rfl
  | cons call rest ih =>
    simp only [run, ← perform_forget, Step.lift, ← ih]

/-! ## What the function has received -/

/-- What a function has received since its validation, restores aside, at a lifecycle position. -/
def Course : Lifecycle → List FunctionCall → Prop
  | .created, _ => False
  | .validated, calls => calls = []
  | .started, calls => ∃ rows : List Row, calls = .start :: rows.map .execute
  | .stopped, calls =>
    calls = [.stop] ∨ ∃ rows : List Row, calls = .start :: (rows.map .execute ++ [.stop])

/-- The function was validated once and before all else, and then kept to the lifecycle. -/
def Heard (arguments : List Argument) (ctx : AppContext) (site : CallSite (Recorded F)) : Prop :=
  ∃ rest, site.function.received = .validate arguments ctx :: rest ∧
    Course site.state (rest.filter fun call => !call.isRestore)

omit [ScalarFunction F] in
theorem Heard.hear {arguments : List Argument} {ctx : AppContext} {site next : CallSite (Recorded F)}
    (call : FunctionCall) (h : Heard arguments ctx site)
    (hreceived : next.function.received = site.function.received ++ [call])
    (hcourse : ∀ calls, Course site.state calls →
      Course next.state (calls ++ [call].filter fun call => !call.isRestore)) :
    Heard arguments ctx next := by
  obtain ⟨rest, hrest, hold⟩ := h
  refine ⟨rest ++ [call], ?_, ?_⟩
  · rw [hreceived, hrest, List.cons_append]
  · rw [List.filter_append]
    exact hcourse _ hold

theorem heard_start {arguments : List Argument} {ctx : AppContext} {site : CallSite (Recorded F)}
    (h : Heard arguments ctx site) : Heard arguments ctx site.start.next := by
  by_cases hstate : site.state = .validated
  · rw [start_of_validated hstate]
    refine h.hear .start rfl fun calls hcourse => ?_
    rw [hstate] at hcourse
    rw [show calls = [] from hcourse]
    exact ⟨[], rfl⟩
  · rw [start_of_ne hstate]
    exact h

theorem heard_stop {arguments : List Argument} {ctx : AppContext} {site : CallSite (Recorded F)}
    (h : Heard arguments ctx site) : Heard arguments ctx site.stop.next := by
  by_cases hstate : site.state = .stopped
  · rw [stop_of_stopped hstate]
    exact h
  · rw [stop_of_ne hstate]
    refine h.hear .stop rfl fun calls hcourse => ?_
    cases hposition : site.state with
    | created => rw [hposition] at hcourse; exact hcourse.elim
    | validated =>
      rw [hposition] at hcourse
      rw [show calls = [] from hcourse]
      exact Or.inl rfl
    | started =>
      rw [hposition] at hcourse
      obtain ⟨rows, hrows⟩ := hcourse
      exact Or.inr ⟨rows, by rw [hrows]; rfl⟩
    | stopped => exact absurd hposition hstate

theorem heard_execute {arguments : List Argument} {ctx : AppContext} {site : CallSite (Recorded F)}
    (h : Heard arguments ctx site) (data : Row) : Heard arguments ctx (site.execute data).next := by
  by_cases hstate : site.state = .started
  · rw [execute_of_started_next hstate]
    refine h.hear (.execute data) rfl fun calls hcourse => ?_
    rw [hstate] at hcourse
    obtain ⟨rows, hrows⟩ := hcourse
    refine show Course site.state _ from ?_
    rw [hstate, hrows]
    exact ⟨rows ++ [data], by simp [FunctionCall.isRestore]⟩
  · rw [execute_of_ne hstate]
    exact h

theorem heard_perform {arguments : List Argument} {ctx : AppContext} (site : CallSite (Recorded F))
    (call : Call) (h : Heard arguments ctx site) : Heard arguments ctx (site.perform call).next := by
  cases call with
  | start => exact heard_start h
  | stop => exact heard_stop h
  | execute data => exact heard_execute h data
  | process event => exact heard_execute h _
  | serializeState => exact h
  | deserializeState snapshot =>
    refine h.hear (.restore snapshot) rfl fun calls hcourse => ?_
    rw [List.filter_cons_of_neg (by simp [FunctionCall.isRestore]), List.filter_nil, List.append_nil]
    exact hcourse

/-! ## What the host has been answered -/

def Succeeded (call : Call) (history : History) : Prop :=
  (call, .done (.ok ())) ∈ history

/-- The lifecycle position is what the answers say that it is. -/
structure StandsBy (state : Lifecycle) (history : History) : Prop where
  stopped_iff : state = .stopped ↔ Succeeded .stop history
  started_iff : state = .started ↔ Succeeded .start history ∧ ¬ Succeeded .stop history
  ne_created : state ≠ .created

theorem StandsBy.validated_iff {state : Lifecycle} {history : History} (h : StandsBy state history) :
    state = .validated ↔ ¬ Succeeded .start history ∧ ¬ Succeeded .stop history := by
  have hstopped := h.stopped_iff
  have hstarted := h.started_iff
  have hcreated := h.ne_created
  cases state <;> simp_all

theorem succeeded_concat (call : Call) (history : History) (entry : Call × Answer) :
    Succeeded call (history ++ [entry]) ↔
      Succeeded call history ∨ (call, .done (.ok ())) = entry := by
  rw [Succeeded, List.mem_append, List.mem_singleton, Succeeded]

theorem StandsBy.concat {state : Lifecycle} {history : History} (h : StandsBy state history)
    {entry : Call × Answer} (hstart : (.start, .done (.ok ())) ≠ entry)
    (hstop : (.stop, .done (.ok ())) ≠ entry) : StandsBy state (history ++ [entry]) where
  stopped_iff := by rw [succeeded_concat, or_iff_left hstop]; exact h.stopped_iff
  started_iff := by
    rw [succeeded_concat, succeeded_concat, or_iff_left hstart, or_iff_left hstop]
    exact h.started_iff
  ne_created := h.ne_created

theorem StandsBy.perform {site : CallSite F} {history : History} (h : StandsBy site.state history)
    (call : Call) :
    StandsBy (site.perform call).next.state (history ++ [(call, (site.perform call).answer)]) := by
  cases call with
  | start =>
    by_cases hstate : site.state = .validated
    · obtain ⟨-, hstop⟩ := h.validated_iff.mp hstate
      rw [CallSite.perform, start_of_validated hstate]
      exact ⟨by simp [succeeded_concat, Step.map, hstop], by simp [succeeded_concat, Step.map, hstop],
        by simp [Step.map]⟩
    · rw [CallSite.perform, start_of_ne hstate]
      exact h.concat (by simp [Step.map, refuse]) (by simp [Step.map])
  | stop =>
    by_cases hstate : site.state = .stopped
    · rw [CallSite.perform, stop_of_stopped hstate]
      exact h.concat (by simp [Step.map]) (by simp [Step.map, refuse])
    · rw [CallSite.perform, stop_of_ne hstate]
      exact ⟨by simp [succeeded_concat, Step.map], by simp [succeeded_concat, Step.map],
        by simp [Step.map]⟩
  | execute data =>
    show StandsBy (site.execute data).next.state _
    rw [execute_next_state]
    exact h.concat (by simp) (by simp)
  | process event =>
    show StandsBy (site.execute _).next.state _
    rw [execute_next_state]
    exact h.concat (by simp) (by simp)
  | serializeState => exact h.concat (by simp) (by simp)
  | deserializeState snapshot => exact h.concat (by simp) (by simp)

theorem standsBy_run {site : CallSite F} (h : site.state = .validated) (calls : List Call) :
    StandsBy (site.run calls).next.state (site.run calls).answer := by
  induction calls using List.reverseRecOn with
  | nil =>
    show StandsBy site.state []
    rw [h]
    exact ⟨by simp [Succeeded], by simp [Succeeded], by simp⟩
  | append_singleton before call ih =>
    rw [run_append_next, run_append_answer]
    exact ih.perform call

end CallSite

/-! ## Forward only -/

/-- How far a lifecycle position is from the beginning. -/
def Lifecycle.rank : Lifecycle → Nat
  | created => 0
  | validated => 1
  | started => 2
  | stopped => 3

namespace CallSite

variable {F : Type} [ScalarFunction F]

theorem rank_le_perform (site : CallSite F) (call : Call) :
    site.state.rank ≤ (site.perform call).next.state.rank := by
  cases call with
  | start =>
    by_cases hstate : site.state = .validated
    · rw [perform, start_of_validated hstate, hstate]
      show Lifecycle.rank .validated ≤ Lifecycle.rank .started
      decide
    · rw [perform, start_of_ne hstate]
      exact Nat.le_refl _
  | stop =>
    by_cases hstate : site.state = .stopped
    · rw [perform, stop_of_stopped hstate]
      exact Nat.le_refl _
    · rw [perform, stop_of_ne hstate]
      show site.state.rank ≤ Lifecycle.rank .stopped
      cases site.state <;> decide
  | execute data => exact Nat.le_of_eq (congrArg Lifecycle.rank (execute_next_state site data).symm)
  | process event => exact Nat.le_of_eq (congrArg Lifecycle.rank (execute_next_state site _).symm)
  | serializeState => exact Nat.le_refl _
  | deserializeState snapshot => exact Nat.le_refl _

/-! ## The contract -/

/-- A call site after a history of calls that have been answered, `recorded` being the same call
site with a recorder in front of its function. -/
structure KeepsContract (arguments : List Argument) (ctx : AppContext) (history : History)
    (site : CallSite F) (recorded : CallSite (Recorded F)) : Prop where
  /-- One validation, then the lifecycle: at most one start, executions between start and stop, at
  most one stop. -/
  heard : Heard arguments ctx recorded
  ne_created : site.state ≠ .created
  rank_le : ∀ call, site.state.rank ≤ (site.perform call).next.state.rank
  start_ok_iff : site.start.answer = .ok () ↔
    ¬ Succeeded .start history ∧ ¬ Succeeded .stop history
  start_passed : site.start.answer = .ok () →
    recorded.start.next =
      { recorded with
        function := recorded.function.hear .start (ScalarFunction.start site.function)
        state := .started }
  start_refused : site.start.answer ≠ .ok () →
    recorded.start =
      { answer := .error (.invalidState site.qualifiedName .start site.state), next := recorded }
  stop_ok_iff : site.stop.answer = .ok () ↔ ¬ Succeeded .stop history
  stop_passed : site.stop.answer = .ok () →
    recorded.stop.next =
      { recorded with
        function := recorded.function.hear .stop (ScalarFunction.stop site.function)
        state := .stopped }
  stop_refused : site.stop.answer ≠ .ok () →
    recorded.stop =
      { answer := .error (.invalidState site.qualifiedName .stop site.state), next := recorded }
  execute_passed : Succeeded .start history ∧ ¬ Succeeded .stop history → ∀ data,
    (recorded.execute data).answer = (ScalarFunction.execute site.function data).answer ∧
      (recorded.execute data).next =
        { recorded with
          function := recorded.function.hear (.execute data)
            (ScalarFunction.execute site.function data).next }
  execute_refused : ¬ (Succeeded .start history ∧ ¬ Succeeded .stop history) → ∀ data,
    recorded.execute data =
      { answer := .error (.invalidState site.qualifiedName .execute site.state), next := recorded }
  /-- An event is its arguments' values, whether they reach the function or not. -/
  process_eq : ∀ event,
    recorded.process event = recorded.execute (site.arguments.map (·.evaluate event))
  captured : recorded.perform .serializeState =
    { answer := .captured (ScalarFunction.snapshot site.function), next := recorded }
  /-- Restoring reaches the function at every position and leaves the position. -/
  restored : ∀ snapshot,
    (recorded.deserializeState snapshot).answer =
        (ScalarFunction.restore site.function snapshot).answer ∧
      (recorded.deserializeState snapshot).next =
        { recorded with
          function := recorded.function.hear (.restore snapshot)
            (ScalarFunction.restore site.function snapshot).next }

theorem keepsContract_of_heard {arguments : List Argument} {ctx : AppContext} {history : History}
    {recorded : CallSite (Recorded F)} (heard : Heard arguments ctx recorded)
    (stands : StandsBy recorded.state history) :
    KeepsContract arguments ctx history recorded.forget recorded where
  heard := heard
  ne_created := stands.ne_created
  rank_le := rank_le_perform recorded.forget
  start_ok_iff := start_answer_eq_ok_iff.trans stands.validated_iff
  start_passed h := by
    have hstate := start_answer_eq_ok_iff.mp h
    rw [start_of_validated (show recorded.state = .validated from hstate)]
    rfl
  start_refused h := start_of_ne fun hstate => h (start_answer_eq_ok_iff.mpr hstate)
  stop_ok_iff := stop_answer_eq_ok_iff.trans (not_congr stands.stopped_iff)
  stop_passed h := by
    have hstate := stop_answer_eq_ok_iff.mp h
    rw [stop_of_ne (show recorded.state ≠ .stopped from hstate)]
    rfl
  stop_refused h := by
    have hstate := not_not.mp (mt stop_answer_eq_ok_iff.mpr h)
    exact stop_of_stopped hstate
  execute_passed h data := by
    have hstate := stands.started_iff.mpr h
    rw [execute_of_started_next hstate, execute_of_started_answer hstate]
    exact ⟨rfl, rfl⟩
  execute_refused h data := execute_of_ne (fun hstate => h (stands.started_iff.mp hstate)) data
  process_eq _ := rfl
  captured := rfl
  restored _ := ⟨rfl, rfl⟩

/-- **The contract is kept on every run.** Behind a recorder a call site answers, goes on and logs
as it does without one, and what the function receives obeys the contract, whatever the calls. -/
theorem contract_of_compile {function : F} {arguments : List Argument} {ctx : AppContext}
    {site : CallSite F} (h : (compile function arguments ctx).answer = .ok site) :
    ∃ recorded : CallSite (Recorded F),
      (compile (Recorded.ofFunction function) arguments ctx).answer = .ok recorded ∧
        ∀ calls, (recorded.run calls).lift forget = site.run calls ∧
          KeepsContract arguments ctx (site.run calls).answer (site.run calls).next
            (recorded.run calls).next := by
  obtain ⟨hvalid, hsite⟩ := compile_eq_ok_iff.mp h
  let recorded : CallSite (Recorded F) :=
    { site with function := ⟨site.function, [.validate arguments ctx]⟩ }
  have hcompiled : (compile (Recorded.ofFunction function) arguments ctx).answer = .ok recorded := by
    refine compile_eq_ok_iff.mpr ⟨hvalid, ?_⟩
    simp only [recorded, hsite]
    rfl
  have hstate : recorded.state = .validated := by rw [show recorded.state = site.state from rfl, hsite]
  have hheard : Heard arguments ctx recorded := ⟨[], rfl, by rw [hstate]; rfl⟩
  refine ⟨recorded, hcompiled, fun calls => ?_⟩
  have hrun : (recorded.run calls).lift forget = site.run calls := run_forget recorded calls
  refine ⟨hrun, ?_⟩
  have hanswer : (recorded.run calls).answer = (site.run calls).answer :=
    congrArg Step.answer hrun
  have hnext : (recorded.run calls).next.forget = (site.run calls).next := congrArg Step.next hrun
  have hstands := standsBy_run hstate calls
  rw [← hnext, ← hanswer]
  exact keepsContract_of_heard (run_preserves heard_perform hheard calls) hstands

/-- A call site of `round` that is stopped before it was started and then started. -/
theorem contract_of_compile_round :
    let arguments : List Argument := [.attributeAt 0 .float]
    let site : CallSite MathFunction :=
      ⟨⟨.round, displayName {} "round", some [.float]⟩, arguments,
        ({} : ExtensionConfig).qualify "round", .validated⟩
    let calls : List Call := [.execute [none], .stop, .start, .deserializeState ⟨7, [1]⟩]
    (compile (MathFunction.create .round) arguments {}).answer = .ok site ∧
      ∃ recorded,
        (compile (Recorded.ofFunction (MathFunction.create .round)) arguments {}).answer =
            .ok recorded ∧
          (recorded.run calls).lift forget = site.run calls ∧
          KeepsContract arguments {} (site.run calls).answer (site.run calls).next
            (recorded.run calls).next := by
  intro arguments site calls
  have hcompiled : (compile (MathFunction.create .round) arguments {}).answer = .ok site := rfl
  obtain ⟨recorded, hrecorded, hcontract⟩ := contract_of_compile hcompiled
  exact ⟨hcompiled, recorded, hrecorded, hcontract calls⟩

end CallSite

end StreamScalar
