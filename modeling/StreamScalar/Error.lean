import StreamScalar.AttributeType
import StreamScalar.Codec.Error
import StreamScalar.Lifecycle
import StreamScalar.Revision

/-!
# Errors

Validation errors reject a call site while it is compiled, execution errors fail a single event and
leave the function usable, state errors concern snapshots. `Error` gathers them with the errors of
configuration, registry and persistence. Every error is a cause; its text is its `message`.
-/

namespace StreamScalar

inductive ValidationError where
  | arityMismatch (function : String) (expected found : Nat)
  | typeMismatch (function : String) (position : Nat) (expected : List AttributeType)
      (found : AttributeType)
  deriving DecidableEq

def ValidationError.message : ValidationError → String
  | arityMismatch function expected found =>
    s!"Invalid no of arguments passed to {function} function, required {expected}, " ++
      s!"but found {found}"
  | typeMismatch function position expected found =>
    s!"Invalid parameter type found for argument {position} of {function} function, " ++
      s!"required {AttributeType.joinNames expected}, but found {found.name}"

/-- Why an event fails. -/
inductive ExecutionError where
  | nullArgument (function : String) (position : Nat)
  | undefinedDomain (function : String) (reason : String)
  | unsupportedValue (function : String) (position : Nat) (found : AttributeType)
  | invalidState (function : String) (operation : Operation) (state : Lifecycle)
  deriving DecidableEq

def ExecutionError.message : ExecutionError → String
  | nullArgument function position =>
    s!"Argument {position} to the {function} function cannot be null"
  | undefinedDomain function reason =>
    s!"Result of the {function} function is undefined: {reason}"
  | unsupportedValue function position found =>
    s!"Argument {position} to the {function} function is not numeric (found {found.name})"
  | invalidState function operation state =>
    s!"Cannot {operation.name} {function} while it is {state.name}"

inductive StateError where
  | encode (reason : String)
  | decode (cause : DecodeError)
  | versionMismatch (expected found : UInt32)
  deriving DecidableEq

def StateError.message : StateError → String
  | encode reason => s!"Failed to encode state: {reason}"
  | decode cause => s!"Failed to decode state: {cause.message}"
  | versionMismatch expected found =>
    s!"State version mismatch: expected {expected.toNat}, found {found.toNat}"

inductive ConfigurationError where
  | malformedToml (detail : String)
  | malformedYaml (detail : String)
  /-- The name of a file says no known format. -/
  | unsupportedExtension (extension : Option String)
  | invalidNamespace (name : String)
  /-- A cause that a host states itself, perhaps with the key that it concerns. -/
  | stated (text : String) (key : Option String)
  deriving DecidableEq

namespace ConfigurationError

def message : ConfigurationError → String
  | malformedToml detail => s!"Invalid TOML: {detail}"
  | malformedYaml detail => s!"Invalid YAML: {detail}"
  | unsupportedExtension found => "Unsupported config file extension: " ++ found.getD "<none>"
  | invalidNamespace name => s!"namespace '{name}' must be non-empty and contain no ':'"
  | stated text _ => text

/-- The key of the configuration that is at fault, where there is one. -/
def key? : ConfigurationError → Option String
  | invalidNamespace _ => some "namespace"
  | stated _ key => key
  | malformedToml _ | malformedYaml _ | unsupportedExtension _ => none

end ConfigurationError

/-- Why a file could not be read. -/
inductive FileError where
  | missing
  | directory
  | notUtf8
  deriving DecidableEq, Repr

def FileError.message : FileError → String
  | missing => "No such file or directory (os error 2)"
  | directory => "Is a directory (os error 21)"
  | notUtf8 => "stream did not contain valid UTF-8"

/-- Why a checkpoint could not be written or read. -/
inductive PersistenceError where
  | revisionNotFound (revision : Revision)
  | malformedRevision (cause : DecodeError)
  | componentFailed (id : String) (cause : StateError)
  | stated (text : String)
  deriving DecidableEq

def PersistenceError.message : PersistenceError → String
  | revisionNotFound revision => s!"Revision '{revision.text}' not found"
  | malformedRevision cause => cause.message
  | componentFailed id cause => s!"component '{id}' failed to persist: {cause.message}"
  | stated text => text

/-- Any error of the library. -/
inductive Error where
  | configuration (cause : ConfigurationError)
  | extensionNotFound (kind name : String)
  | validation (cause : ValidationError)
  | execution (cause : ExecutionError)
  | state (cause : StateError)
  | persistence (cause : PersistenceError)
  | file (cause : FileError)
  | other (text : String)
  deriving DecidableEq

/-- The text of an error: the errors of validation, execution and state speak for themselves. -/
def Error.message : Error → String
  | configuration cause => s!"Configuration error: {cause.message}"
  | extensionNotFound kind name => s!"Extension '{kind}:{name}' not found"
  | validation cause => cause.message
  | execution cause => cause.message
  | state cause => cause.message
  | persistence cause => s!"Persistence error: {cause.message}"
  | file cause => s!"IO error: {cause.message}"
  | other text => text

end StreamScalar
