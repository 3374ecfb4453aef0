import Mathlib.Tactic.ByContra
import StreamScalar.CallSite

/-!
# Runs of a call site

The calls that a host can make on a call site, one after another in any order, and what they answer.

* `run` : a whole sequence of calls, with every call beside its answer.
* `run_preserves` : what no single call breaks, no run breaks.
-/

namespace StreamScalar

namespace CallSite

inductive Call where
  | start
  | stop
  | execute (data : Row)
  | process (event : Option Event)
  | serializeState
  | deserializeState (snapshot : Snapshot)
  deriving DecidableEq

inductive Answer where
  | done (result : Except ExecutionError Unit)
  | value (result : Except ExecutionError Value)
  | captured (result : Except StateError Snapshot)
  | restored (result : Except StateError Unit)

/-- Calls beside their answers, the first one first. -/
abbrev History := List (Call × Answer)

variable {F : Type} [ScalarFunction F]

def perform (site : CallSite F) : Call → Step (CallSite F) Answer
  | .start => site.start.map .done
  | .stop => site.stop.map .done
  | .execute data => (site.execute data).map .value
  | .process event => (site.process event).map .value
  | .serializeState => { answer := .captured site.serializeState, next := site }
  | .deserializeState snapshot => (site.deserializeState snapshot).map .restored

def run (site : CallSite F) : List Call → Step (CallSite F) History
  | [] => { answer := [], next := site }
  | call :: rest =>
    let first := site.perform call
    let later := first.next.run rest
    { answer := (call, first.answer) :: later.answer
      next := later.next
      log := first.log ++ later.log }

/-! ## Runs -/

theorem run_append_next (site : CallSite F) (before after : List Call) :
    (site.run (before ++ after)).next = ((site.run before).next.run after).next := by
  induction before generalizing site with
  | nil => rfl
  | cons call rest ih => exact ih (site.perform call).next

theorem run_append_answer (site : CallSite F) (before after : List Call) :
    (site.run (before ++ after)).answer =
      (site.run before).answer ++ ((site.run before).next.run after).answer := by
  induction before generalizing site with
  | nil => rfl
  | cons call rest ih => exact congrArg _ (ih (site.perform call).next)

theorem run_preserves {P : CallSite F → Prop}
    (step : ∀ site call, P site → P (site.perform call).next) {site : CallSite F} (h : P site)
    (calls : List Call) : P (site.run calls).next := by
  induction calls generalizing site with
  | nil => exact h
  | cons call rest ih => exact ih (step site call h)

/-- What every call keeps and every answer has, a run keeps and all of its answers have. -/
theorem run_answers {P : CallSite F → Prop} {Q : Call → Answer → Prop}
    (step : ∀ site call, P site → P (site.perform call).next)
    (answer : ∀ site call, P site → Q call (site.perform call).answer) {site : CallSite F}
    (h : P site) (calls : List Call) : ∀ entry ∈ (site.run calls).answer, Q entry.1 entry.2 := by
  induction calls generalizing site with
  | nil => exact fun entry hentry => nomatch hentry
  | cons call rest ih =>
    intro entry hentry
    rcases List.mem_cons.mp hentry with rfl | hlater
    · exact answer site call h
    · exact ih (step site call h) entry hlater

/-! ## What compilation makes -/

theorem compile_eq_ok_iff {function : F} {arguments : List Argument} {ctx : AppContext}
    {site : CallSite F} :
    (compile function arguments ctx).answer = .ok site ↔
      (ScalarFunction.validate function arguments ctx).answer = .ok () ∧
        site = ⟨(ScalarFunction.validate function arguments ctx).next, arguments,
          ctx.config.qualify (ScalarFunction.name function), .validated⟩ := by
  rw [compile]
  cases h : (ScalarFunction.validate function arguments ctx).answer with
  | error e => simp
  | ok u => simp [eq_comm]

theorem compile_eq_error_iff {function : F} {arguments : List Argument} {ctx : AppContext}
    {e : ValidationError} :
    (compile function arguments ctx).answer = .error e ↔
      (ScalarFunction.validate function arguments ctx).answer = .error e := by
  rw [compile]
  cases h : (ScalarFunction.validate function arguments ctx).answer with
  | error e => simp
  | ok u => simp

/-! ## What the operations do, by the lifecycle position -/

theorem start_of_validated {site : CallSite F} (h : site.state = .validated) :
    site.start =
      { answer := .ok ()
        next := { site with function := ScalarFunction.start site.function, state := .started }
        log := [⟨.debug, s!"{site.qualifiedName} started"⟩] } := by
  rw [start, h]

theorem start_of_ne {site : CallSite F} (h : site.state ≠ .validated) :
    site.start = site.refuse .start := by
  rw [start]
  split
  · next hstate => exact absurd hstate h
  · rfl

theorem start_answer_eq_ok_iff {site : CallSite F} :
    site.start.answer = .ok () ↔ site.state = .validated := by
  refine ⟨fun h => ?_, fun h => by rw [start_of_validated h]⟩
  by_contra hstate
  rw [start_of_ne hstate] at h
  cases h

theorem stop_of_stopped {site : CallSite F} (h : site.state = .stopped) :
    site.stop = site.refuse .stop := by
  rw [stop, h]

theorem stop_of_ne {site : CallSite F} (h : site.state ≠ .stopped) :
    site.stop =
      { answer := .ok ()
        next := { site with function := ScalarFunction.stop site.function, state := .stopped }
        log := [⟨.debug, s!"{site.qualifiedName} stopped"⟩] } := by
  rw [stop]
  split
  · next hstate => exact absurd hstate h
  · rfl

theorem stop_answer_eq_ok_iff {site : CallSite F} :
    site.stop.answer = .ok () ↔ site.state ≠ .stopped := by
  refine ⟨fun h hstate => ?_, fun h => by rw [stop_of_ne h]⟩
  rw [stop_of_stopped hstate] at h
  cases h

theorem execute_of_started_next {site : CallSite F} (h : site.state = .started) (data : Row) :
    (site.execute data).next =
      { site with function := (ScalarFunction.execute site.function data).next } := by
  rw [execute, h]

theorem execute_of_started_answer {site : CallSite F} (h : site.state = .started) (data : Row) :
    (site.execute data).answer = (ScalarFunction.execute site.function data).answer := by
  rw [execute, h]

theorem execute_of_started_log {site : CallSite F} (h : site.state = .started) (data : Row) :
    (site.execute data).log =
      (ScalarFunction.execute site.function data).log ++
        match (ScalarFunction.execute site.function data).answer with
        | .ok _ => []
        | .error e => [⟨.warn, s!"{site.qualifiedName} failed for event: {e.message}"⟩] := by
  obtain ⟨function, arguments, qualifiedName, state⟩ := site
  obtain rfl : state = .started := h
  rfl

theorem execute_of_ne {site : CallSite F} (h : site.state ≠ .started) (data : Row) :
    site.execute data = site.refuse .execute := by
  rw [execute]
  split
  · next hstate => exact absurd hstate h
  · rfl

theorem execute_next_state (site : CallSite F) (data : Row) :
    (site.execute data).next.state = site.state := by
  by_cases h : site.state = .started
  · rw [execute_of_started_next h]
  · rw [execute_of_ne h]
    rfl

/-! ## What no call changes -/

theorem perform_fixed (site : CallSite F) (call : Call) :
    (site.perform call).next.arguments = site.arguments ∧
      (site.perform call).next.qualifiedName = site.qualifiedName := by
  obtain ⟨function, arguments, qualifiedName, state⟩ := site
  cases call <;> cases state <;> exact ⟨rfl, rfl⟩

theorem run_arguments (site : CallSite F) (calls : List Call) :
    (site.run calls).next.arguments = site.arguments :=
  run_preserves (P := fun current => current.arguments = site.arguments)
    (fun current call h => (perform_fixed current call).1.trans h) rfl calls

theorem run_qualifiedName (site : CallSite F) (calls : List Call) :
    (site.run calls).next.qualifiedName = site.qualifiedName :=
  run_preserves (P := fun current => current.qualifiedName = site.qualifiedName)
    (fun current call h => (perform_fixed current call).2.trans h) rfl calls

/-! ## What every operation of the function keeps -/

theorem perform_function_preserves {P : F → Prop}
    (hstart : ∀ f, P f → P (ScalarFunction.start f))
    (hstop : ∀ f, P f → P (ScalarFunction.stop f))
    (hexecute : ∀ f data, P f → P (ScalarFunction.execute f data).next)
    (hrestore : ∀ f s, P f → P (ScalarFunction.restore f s).next) {site : CallSite F}
    (h : P site.function) (call : Call) : P (site.perform call).next.function := by
  have hexecute' : ∀ data, P (site.execute data).next.function := by
    intro data
    by_cases hstate : site.state = .started
    · rw [execute_of_started_next hstate]
      exact hexecute _ data h
    · rw [execute_of_ne hstate]
      exact h
  cases call with
  | start =>
    show P site.start.next.function
    by_cases hstate : site.state = .validated
    · rw [start_of_validated hstate]
      exact hstart _ h
    · rw [start_of_ne hstate]
      exact h
  | stop =>
    show P site.stop.next.function
    by_cases hstate : site.state = .stopped
    · rw [stop_of_stopped hstate]
      exact h
    · rw [stop_of_ne hstate]
      exact hstop _ h
  | execute data => exact hexecute' data
  | process event => exact hexecute' _
  | serializeState => exact h
  | deserializeState s => exact hrestore _ s h

end CallSite

end StreamScalar
