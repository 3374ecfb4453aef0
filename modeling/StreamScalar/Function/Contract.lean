import StreamScalar.Argument
import StreamScalar.Coercion
import StreamScalar.Config.Basic
import StreamScalar.Snapshot
import StreamScalar.Step

/-!
# The contract of scalar functions

A scalar function is a state with the operations of `ScalarFunction`. A call site validates it once
against the declared types of its arguments, may start and stop it, executes it once per event and
captures or restores its state at any time. The checks here are the ones that functions share.

* `checkArity`, `checkArgumentType`, `checkSignature` : what validation is made of.
* `numericArgument` : the argument of an event as a double.
-/

namespace StreamScalar

/-- The argument values of one event, absent ones being `none`. -/
abbrev Row := List (Option Value)

/-- A scalar function: a type of states, each of which may be an instance at some call site. An
operation that fails still leaves a next state. -/
class ScalarFunction (F : Type) where
  name : F → String
  /-- Checks the arguments and fixes the signature. -/
  validate : F → List Argument → AppContext → Step F (Except ValidationError Unit)
  /-- The type of every result, once validation has succeeded. -/
  returnType : F → AttributeType
  execute : F → Row → Step F (Except ExecutionError Value)
  start : F → F := id
  stop : F → F := id
  snapshot : F → Except StateError Snapshot := fun _ => .ok .empty
  /-- Replaces the state by a captured one. A function without state accepts every snapshot and
  warns of one that holds something. -/
  restore : F → Snapshot → Step F (Except StateError Unit) := fun f s =>
    { answer := .ok (), next := f
      log := if s.isEmpty then [] else [⟨.warn,
        s!"Ignoring {s.data.length} byte state restored into stateless function '{name f}'"⟩] }

/-- The name of a function in messages, such as `math:log()`. -/
def displayName (ctx : AppContext) (name : String) : String :=
  ctx.config.qualify name ++ "()"

/-- Accepts an argument list of the expected length, giving the proof that it is. -/
def checkArity (function : String) (arguments : List Argument) (expected : Nat) :
    Except ValidationError (PLift (arguments.length = expected)) :=
  if h : arguments.length = expected then .ok ⟨h⟩
  else .error (.arityMismatch function expected arguments.length)

/-- The declared type of the argument at a position, if it is an accepted one. -/
def checkArgumentType (function : String) (arguments : List Argument)
    (position : Fin arguments.length) (accepted : List AttributeType) :
    Except ValidationError AttributeType :=
  let found := arguments[position].declaredType
  if found ∈ accepted then .ok found
  else .error (.typeMismatch function position accepted found)

/-- The declared types of an argument list, if there is one argument for every parameter and each
has a type that its parameter accepts. The length is judged before any type, and the types from the
first on. -/
def checkSignature (function : String) (arguments : List Argument)
    (parameters : List (List AttributeType)) : Except ValidationError (List AttributeType) := do
  let ⟨sameLength⟩ ← checkArity function arguments parameters.length
  (List.finRange parameters.length).mapM fun position =>
    checkArgumentType function arguments (position.cast sameLength.symm) parameters[position]

/-- The argument of an event at a position as a double; past the end an argument is absent. -/
def numericArgument (function : String) (data : Row) (position : Nat) (declared : AttributeType) :
    Except ExecutionError Binary64 :=
  match coerceToDouble (data[position]?).join declared with
  | .ok x => .ok x
  | .error .absent => .error (.nullArgument function position)
  | .error (.nonNumericType found) => .error (.unsupportedValue function position found)
  | .error (.nonNumericValue found) => .error (.unsupportedValue function position found)

/-- The error of a function that is executed before its validation has succeeded. -/
def notValidated (function : String) : ExecutionError :=
  .invalidState function .execute .created

end StreamScalar
