import StreamScalar.Function.Contract

/-!
# Call sites

A call site is a validated function with the argument expressions that feed it. It moves forward
through its lifecycle only: it can be started once, before it is stopped, and stopped once; events
reach the function while it is started. Every other call is refused and changes nothing.
-/

namespace StreamScalar

/-- A function at one place of a query. -/
structure CallSite (F : Type) where
  function : F
  arguments : List Argument
  qualifiedName : String
  state : Lifecycle

namespace CallSite

variable {F : Type} [ScalarFunction F]

/-- Validates a function against its arguments and makes a call site of it. -/
def compile (function : F) (arguments : List Argument) (ctx : AppContext) :
    Step Unit (Except ValidationError (CallSite F)) :=
  let qualifiedName := ctx.config.qualify (ScalarFunction.name function)
  let validated := ScalarFunction.validate function arguments ctx
  match validated.answer with
  | .error e =>
    { answer := .error e, next := ()
      log := validated.log ++
        [⟨.debug, s!"[{ctx.name}] rejected {qualifiedName}: {e.message}"⟩] }
  | .ok () =>
    let returnType := ScalarFunction.returnType validated.next
    { answer := .ok ⟨validated.next, arguments, qualifiedName, .validated⟩, next := ()
      log := validated.log ++
        [⟨.debug, s!"[{ctx.name}] validated {qualifiedName} returning {returnType.name}"⟩] }

def returnType (site : CallSite F) : AttributeType :=
  ScalarFunction.returnType site.function

/-- The refusal of an operation in the present state. -/
def refuse (site : CallSite F) (operation : Operation) {α : Type} :
    Step (CallSite F) (Except ExecutionError α) where
  answer := .error (.invalidState site.qualifiedName operation site.state)
  next := site

/-- Starts the function, if the call site is neither started nor stopped. -/
def start (site : CallSite F) : Step (CallSite F) (Except ExecutionError Unit) :=
  match site.state with
  | .validated =>
    { answer := .ok ()
      next := { site with function := ScalarFunction.start site.function, state := .started }
      log := [⟨.debug, s!"{site.qualifiedName} started"⟩] }
  | _ => site.refuse .start

/-- Stops the function, started or not, unless it is stopped. -/
def stop (site : CallSite F) : Step (CallSite F) (Except ExecutionError Unit) :=
  match site.state with
  | .stopped => site.refuse .stop
  | _ =>
    { answer := .ok ()
      next := { site with function := ScalarFunction.stop site.function, state := .stopped }
      log := [⟨.debug, s!"{site.qualifiedName} stopped"⟩] }

/-- Runs the function on argument values, if the call site is started. A failure concerns this
event only. -/
def execute (site : CallSite F) (data : Row) : Step (CallSite F) (Except ExecutionError Value) :=
  match site.state with
  | .started =>
    let run := ScalarFunction.execute site.function data
    let failure := match run.answer with
      | .ok _ => []
      | .error e => [⟨.warn, s!"{site.qualifiedName} failed for event: {e.message}"⟩]
    { answer := run.answer, next := { site with function := run.next }, log := run.log ++ failure }
  | _ => site.refuse .execute

/-- Runs the function on the argument expressions' values for an event. -/
def process (site : CallSite F) (event : Option Event) :
    Step (CallSite F) (Except ExecutionError Value) :=
  site.execute (site.arguments.map (·.evaluate event))

def serializeState (site : CallSite F) : Except StateError Snapshot :=
  ScalarFunction.snapshot site.function

/-- Restores the state of the function, whatever the lifecycle position, which stays. -/
def deserializeState (site : CallSite F) (snapshot : Snapshot) :
    Step (CallSite F) (Except StateError Unit) :=
  (ScalarFunction.restore site.function snapshot).lift fun f => { site with function := f }

end CallSite

end StreamScalar
