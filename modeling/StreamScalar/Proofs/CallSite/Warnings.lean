import StreamScalar.Proofs.CallSite.Contract
import StreamScalar.Proofs.Function.Errors
import StreamScalar.Proofs.Function.Naming

/-!
# What a call site warns of

A call site warns of an event that its function could not do, and a math function of a snapshot that
it is given to restore, having no state to restore it to. Each call of a run is kept as an
`Exchange`: beside its answer stand the calls that the function received of it and the records that
it emitted. `Goes` lists the ways in which an exchange can go at a call site of a math function; the
warnings of a run are those of its exchanges, one after another.

* `goes_exchange` : there is no other way.
* `warnings_of_compile` : which warnings every run emits, and which of its calls emit none.
-/

namespace StreamScalar

def warnings (records : List LogRecord) : List LogRecord :=
  records.filter (·.level = .warn)

namespace CallSite

/-- What is warned of when the function could not do an event. -/
def failedEvent (qualifiedName : String) (e : ExecutionError) : LogRecord :=
  ⟨.warn, s!"{qualifiedName} failed for event: {e.message}"⟩

/-- What is warned of when a function without state is given some. -/
def ignoredState (name : String) (s : Snapshot) : LogRecord :=
  ⟨.warn, s!"Ignoring {s.data.length} byte state restored into stateless function '{name}'"⟩

/-- A call that brings an event, by its argument values or as a whole. -/
inductive Call.IsEvent : Call → Prop
  | execute (data : Row) : IsEvent (.execute data)
  | process (event : Option Event) : IsEvent (.process event)

/-- A call, what the function received of it, what it was answered and the records that it emitted. -/
structure Exchange where
  call : Call
  received : List FunctionCall
  answer : Answer
  log : List LogRecord

/-- The warning that an exchange calls for. An event must have reached the function and failed there,
and a snapshot must not be the empty one, be it for its version or for its data. -/
def Exchange.warning? (qualifiedName name : String) (x : Exchange) : Option LogRecord :=
  match x.call, x.answer with
  | .execute _, .value (.error e) | .process _, .value (.error e) =>
    if x.received = [] then none else some (failedEvent qualifiedName e)
  | .deserializeState s, _ =>
    if s.version = 0 ∧ s.data = [] then none else some (ignoredState name s)
  | _, _ => none

/-- The calls without a warning, told by what the host is answered. -/
inductive Quiet : Call → Answer → Prop
  | refused (call : Call) (name : String) (operation : Operation) (state : Lifecycle) :
      Quiet call (.value (.error (.invalidState name operation state)))
  | succeeded (call : Call) (result : Value) : Quiet call (.value (.ok result))
  | start (answer : Answer) : Quiet .start answer
  | stop (answer : Answer) : Quiet .stop answer
  | serializeState (answer : Answer) : Quiet .serializeState answer
  | restoresEmpty (answer : Answer) : Quiet (.deserializeState .empty) answer

section Exchanges

variable {F : Type} [ScalarFunction F]

def recorded (site : CallSite F) : CallSite (Recorded F) :=
  { site with function := .ofFunction site.function }

/-- One call. What the function receives of it is what a recorder hears, which changes neither the
answer nor the records (`perform_forget`). -/
def exchange (site : CallSite F) (call : Call) : Exchange where
  call := call
  received := (site.recorded.perform call).next.function.received
  answer := (site.perform call).answer
  log := (site.perform call).log

def exchanges (site : CallSite F) : List Call → List Exchange
  | [] => []
  | call :: rest => site.exchange call :: (site.perform call).next.exchanges rest

theorem run_answer_eq_map (site : CallSite F) (calls : List Call) :
    (site.run calls).answer = (site.exchanges calls).map fun x => (x.call, x.answer) := by
  induction calls generalizing site with
  | nil => rfl
  | cons call rest ih => exact congrArg _ (ih (site.perform call).next)

theorem run_log_eq_flatMap (site : CallSite F) (calls : List Call) :
    (site.run calls).log = (site.exchanges calls).flatMap (·.log) := by
  induction calls generalizing site with
  | nil => rfl
  | cons call rest ih => exact congrArg _ (ih (site.perform call).next)

end Exchanges

/-! ## How an exchange can go -/

/-- The ways in which a call on a call site of a math function can go. -/
inductive Goes (qualifiedName : String) (f : MathFunction) : Exchange → Prop
  | started :
      Goes qualifiedName f
        ⟨.start, [.start], .done (.ok ()), [⟨.debug, s!"{qualifiedName} started"⟩]⟩
  | stopped :
      Goes qualifiedName f
        ⟨.stop, [.stop], .done (.ok ()), [⟨.debug, s!"{qualifiedName} stopped"⟩]⟩
  | startRefused (state : Lifecycle) :
      Goes qualifiedName f
        ⟨.start, [], .done (.error (.invalidState qualifiedName .start state)), []⟩
  | stopRefused (state : Lifecycle) :
      Goes qualifiedName f
        ⟨.stop, [], .done (.error (.invalidState qualifiedName .stop state)), []⟩
  | eventRefused {call : Call} (event : call.IsEvent) (state : Lifecycle) :
      Goes qualifiedName f
        ⟨call, [], .value (.error (.invalidState qualifiedName .execute state)), []⟩
  | eventSucceeded {call : Call} (event : call.IsEvent) (data : Row) (result : Value) :
      Goes qualifiedName f ⟨call, [.execute data], .value (.ok result), []⟩
  | eventFailed {call : Call} (event : call.IsEvent) (data : Row) {e : ExecutionError}
      (reason : e.OnEvent f.displayName) :
      Goes qualifiedName f
        ⟨call, [.execute data], .value (.error e), [failedEvent qualifiedName e]⟩
  | captured : Goes qualifiedName f ⟨.serializeState, [], .captured (.ok .empty), []⟩
  | restored (s : Snapshot) :
      Goes qualifiedName f
        ⟨.deserializeState s, [.restore s], .restored (.ok ()),
          if s.isEmpty then [] else [ignoredState f.kind.name s]⟩

section Math

variable {F : Type} [ScalarFunction F] {f : MathFunction}

theorem goes_start (site : CallSite F) : Goes site.qualifiedName f (site.exchange .start) := by
  show Goes site.qualifiedName f
    ⟨.start, site.recorded.start.next.function.received, .done site.start.answer, site.start.log⟩
  by_cases hstate : site.state = .validated
  · rw [start_of_validated hstate,
      start_of_validated (show site.recorded.state = .validated from hstate)]
    exact .started
  · rw [start_of_ne hstate, start_of_ne (show site.recorded.state ≠ .validated from hstate)]
    exact .startRefused site.state

theorem goes_stop (site : CallSite F) : Goes site.qualifiedName f (site.exchange .stop) := by
  show Goes site.qualifiedName f
    ⟨.stop, site.recorded.stop.next.function.received, .done site.stop.answer, site.stop.log⟩
  by_cases hstate : site.state = .stopped
  · rw [stop_of_stopped hstate, stop_of_stopped (show site.recorded.state = .stopped from hstate)]
    exact .stopRefused site.state
  · rw [stop_of_ne hstate, stop_of_ne (show site.recorded.state ≠ .stopped from hstate)]
    exact .stopped

variable [HasMath F] [LawfulMath F] {types : List AttributeType} {site : CallSite F}

theorem goes_event (hfunction : site.function = HasMath.ofMath f)
    (hsignature : f.signature = some types) {call : Call} (event : call.IsEvent) (data : Row) :
    Goes site.qualifiedName f
      ⟨call, (site.recorded.execute data).next.function.received,
        .value (site.execute data).answer, (site.execute data).log⟩ := by
  by_cases hstate : site.state = .started
  · have hrun : ScalarFunction.execute site.function data =
        { answer := f.execute data, next := HasMath.ofMath f } := by
      rw [hfunction, LawfulMath.execute]
      rfl
    rw [execute_of_started_next (show site.recorded.state = .started from hstate),
      execute_of_started_answer hstate, execute_of_started_log hstate, hrun]
    cases hresult : f.execute data with
    | ok result => exact .eventSucceeded event data result
    | error e =>
      exact .eventFailed event data (MathFunction.onEvent_of_execute hsignature hresult)
  · rw [execute_of_ne hstate, execute_of_ne (show site.recorded.state ≠ .started from hstate)]
    exact .eventRefused event site.state

theorem goes_exchange (hfunction : site.function = HasMath.ofMath f)
    (hsignature : f.signature = some types) (call : Call) :
    Goes site.qualifiedName f (site.exchange call) := by
  cases call with
  | start => exact goes_start site
  | stop => exact goes_stop site
  | execute data => exact goes_event hfunction hsignature (.execute data) data
  | process event => exact goes_event hfunction hsignature (.process event) _
  | serializeState =>
    show Goes site.qualifiedName f
      ⟨.serializeState, [], .captured (ScalarFunction.snapshot site.function), []⟩
    rw [hfunction, LawfulMath.snapshot]
    exact .captured
  | deserializeState s =>
    show Goes site.qualifiedName f
      ⟨.deserializeState s, [.restore s], .restored (ScalarFunction.restore site.function s).answer,
        (ScalarFunction.restore site.function s).log⟩
    rw [hfunction, LawfulMath.restore]
    exact .restored s

theorem goes_exchanges (hfunction : site.function = HasMath.ofMath f)
    (hsignature : f.signature = some types) (calls : List Call) :
    ∀ x ∈ site.exchanges calls, Goes site.qualifiedName f x := by
  induction calls generalizing site with
  | nil => exact fun x hx => nomatch hx
  | cons call rest ih =>
    intro x hx
    rcases List.mem_cons.mp hx with rfl | hlater
    · exact goes_exchange hfunction hsignature call
    · rw [← (perform_fixed site call).2]
      exact ih (perform_ofMath hfunction call) x hlater

end Math

/-! ## Warnings -/

section Warnings

variable {qualifiedName : String} {f : MathFunction} {x : Exchange}

theorem Goes.warnings_log (h : Goes qualifiedName f x) :
    warnings x.log = (x.warning? qualifiedName f.kind.name).toList := by
  cases h with
  | started => rfl
  | stopped => rfl
  | startRefused => rfl
  | stopRefused => rfl
  | eventRefused event => cases event <;> rfl
  | eventSucceeded event => cases event <;> rfl
  | eventFailed event => cases event <;> rfl
  | captured => rfl
  | restored s =>
    have hempty : s.isEmpty = true ↔ s.version = 0 ∧ s.data = [] := by simp [Snapshot.isEmpty]
    simp only [Exchange.warning?, hempty]
    split <;> rfl

/-- The host can tell from the answers which exchanges are without a warning. -/
theorem Goes.warnings_log_eq_nil_iff (h : Goes qualifiedName f x) :
    warnings x.log = [] ↔ Quiet x.call x.answer := by
  cases h with
  | started => exact iff_of_true rfl (.start _)
  | stopped => exact iff_of_true rfl (.stop _)
  | startRefused => exact iff_of_true rfl (.start _)
  | stopRefused => exact iff_of_true rfl (.stop _)
  | eventRefused => exact iff_of_true rfl (.refused ..)
  | eventSucceeded => exact iff_of_true rfl (.succeeded ..)
  | eventFailed event data reason =>
    refine iff_of_false (List.cons_ne_nil _ _) fun hquiet => ?_
    -- the function has a signature, so what it answers is no refusal
    cases hquiet with
    | refused => exact reason.ne_invalidState rfl
    | start => cases event
    | stop => cases event
    | serializeState => cases event
    | restoresEmpty => cases event
  | captured => exact iff_of_true rfl (.serializeState _)
  | restored s =>
    by_cases hs : s = .empty
    · rw [hs]
      exact iff_of_true rfl (.restoresEmpty _)
    · rw [← Snapshot.isEmpty_iff] at hs
      rw [if_neg hs]
      refine iff_of_false (List.cons_ne_nil _ _) fun hquiet => ?_
      cases hquiet
      exact hs rfl

end Warnings

/-- **A warning for every failure and for nothing else.** On every run of a call site of a math
function the warnings are, in the order of the calls, one for each event that reached the function
and failed there, with the error that was answered, and one for each restored snapshot that holds
something. The calls without a warning are the refused ones, the events that succeeded, starts,
stops, captures and restores of the empty snapshot. -/
theorem warnings_of_compile {F : Type} [ScalarFunction F] [HasMath F] [LawfulMath F]
    {f : MathFunction} {arguments : List Argument} {ctx : AppContext} {site : CallSite F}
    (h : (compile (HasMath.ofMath f : F) arguments ctx).answer = .ok site) (calls : List Call) :
    (site.run calls).answer = (site.exchanges calls).map (fun x => (x.call, x.answer)) ∧
      (site.run calls).log = (site.exchanges calls).flatMap (·.log) ∧
      warnings (site.run calls).log =
        (site.exchanges calls).filterMap (·.warning? site.qualifiedName f.kind.name) ∧
      ∀ x ∈ site.exchanges calls,
        warnings x.log = (x.warning? site.qualifiedName f.kind.name).toList ∧
          (warnings x.log = [] ↔ Quiet x.call x.answer) := by
  have hgoes : ∀ x ∈ site.exchanges calls,
      Goes site.qualifiedName
        (.validated f.kind ctx (arguments.map Argument.declaredType)) x :=
    goes_exchanges (function_of_compile h) rfl calls
  have hwarnings : ∀ x ∈ site.exchanges calls,
      warnings x.log = (x.warning? site.qualifiedName f.kind.name).toList :=
    fun x hx => (hgoes x hx).warnings_log
  refine ⟨run_answer_eq_map site calls, run_log_eq_flatMap site calls, ?_, fun x hx =>
    ⟨hwarnings x hx, (hgoes x hx).warnings_log_eq_nil_iff⟩⟩
  calc warnings (site.run calls).log
      = (site.exchanges calls).flatMap fun x => warnings x.log := by
        rw [run_log_eq_flatMap, warnings, List.filter_flatMap]
        rfl
    _ = (site.exchanges calls).flatMap fun x =>
          (x.warning? site.qualifiedName f.kind.name).toList := List.flatMap_congr hwarnings
    _ = (site.exchanges calls).filterMap (·.warning? site.qualifiedName f.kind.name) :=
        (List.filterMap_eq_flatMap_toList _ _).symm

/-- A call site of `round` before its start, between start and stop and behind its stop: a refused
event, a missing argument, one that is no number, and snapshots of which only one is empty. -/
theorem warnings_of_compile_round :
    let arguments : List Argument := [.attributeAt 0 .float]
    let site : CallSite MathFunction :=
      ⟨.validated .round {} [.float], arguments, "math:round", .validated⟩
    let calls : List Call :=
      [.process none, .start, .process none, .execute [some (.float ⟨0x40200000⟩)],
        .deserializeState ⟨0, []⟩, .deserializeState ⟨0, [1, 2]⟩, .execute [some (.bool true)],
        .deserializeState ⟨7, []⟩, .serializeState, .stop, .execute [none]]
    (compile (MathFunction.create .round) arguments {}).answer = .ok site ∧
      warnings (site.run calls).log =
        [⟨.warn, "math:round failed for event: " ++
            "Argument 0 to the math:round() function cannot be null"⟩,
          ⟨.warn, "Ignoring 2 byte state restored into stateless function 'round'"⟩,
          ⟨.warn, "math:round failed for event: " ++
            "Argument 0 to the math:round() function is not numeric (found BOOL)"⟩,
          ⟨.warn, "Ignoring 0 byte state restored into stateless function 'round'"⟩] := by
  intro arguments site calls
  have hcompiled : (compile (MathFunction.create .round) arguments {}).answer = .ok site := rfl
  obtain ⟨-, -, hwarnings, -⟩ := warnings_of_compile (f := .create .round) hcompiled calls
  exact ⟨hcompiled, hwarnings.trans rfl⟩

end CallSite

end StreamScalar
