import StreamScalar.Error
import StreamScalar.Text.WhiteSpace

/-!
# Extension configuration

The namespace under which functions are registered, the functions that are not, and the application
context that a call site is compiled in.

* `ExtensionConfig.validate` : what every loaded configuration satisfies.
-/

namespace StreamScalar

/-- The configuration of the function library. -/
structure ExtensionConfig where
  /-- The namespace of qualified names, such as `math` in `math:log`. -/
  ns : String := "math"
  /-- Names of functions that are not registered by default. -/
  disabled : List String := []
  deriving DecidableEq, Inhabited

namespace ExtensionConfig

/-- Whether a function is registered by default. -/
def isEnabled (config : ExtensionConfig) (function : String) : Bool :=
  !config.disabled.contains function

/-- The qualified name of a function: the namespace, a colon and the name. -/
def qualify (config : ExtensionConfig) (function : String) : String :=
  config.ns ++ ":" ++ function

/-- A configuration whose namespace is not blank and holds no colon. -/
def validate (config : ExtensionConfig) : Except ConfigurationError ExtensionConfig :=
  let name := Text.trim config.ns
  if name.isEmpty || name.contains ':' then .error (.invalidNamespace config.ns)
  else .ok config

end ExtensionConfig

/-- What a call site knows of its application while it is compiled. -/
structure AppContext where
  name : String := "default"
  config : ExtensionConfig := {}
  deriving DecidableEq

end StreamScalar
