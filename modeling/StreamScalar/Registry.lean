import StreamScalar.CallSite
import StreamScalar.Function.Math
import StreamScalar.Table

/-!
# The function registry

Factories of functions, found by qualified name while a query is compiled. Every look-up makes a
fresh function, so that each call site owns its instance. A factory added under a name that is taken
replaces the one before.
-/

namespace StreamScalar

/-- A maker of fresh functions. -/
structure Factory (F : Type) where
  name : String
  /-- What the function does, for documentation. -/
  description : String := ""
  create : F

def MathFunction.factory (kind : MathFunction.Kind) : Factory MathFunction where
  name := kind.name
  description :=
    match kind with
    | .log => "log(number, base): logarithm of number to the given base"
    | .round => "round(a): closest integer with ties rounding up; FLOAT -> INT, DOUBLE -> LONG"
    | .sinh => "sinh(a): hyperbolic sine of a in radians"
  create := create kind

/-- The same maker, of functions taken as a larger kind of functions. -/
def Factory.map {F G : Type} (f : F → G) (factory : Factory F) : Factory G :=
  { name := factory.name, description := factory.description, create := f factory.create }

/-- The kinds of functions among which there are the math functions. -/
class HasMath (F : Type) where
  ofMath : MathFunction → F

instance : HasMath MathFunction := ⟨id⟩

/-- Factories by qualified name, under a configuration. -/
structure Registry (F : Type) where
  config : ExtensionConfig
  factories : Table String (Factory F)

namespace Registry

variable {F : Type}

def empty (config : ExtensionConfig) : Registry F := ⟨config, .empty⟩

/-- Registers a factory under the namespace of the registry. -/
def add (registry : Registry F) (factory : Factory F) : Step (Registry F) Unit :=
  let key := registry.config.qualify factory.name
  let replaced := if registry.factories.contains key then
      [⟨.warn, s!"Function '{key}' was already registered and has been replaced"⟩]
    else []
  { answer := ()
    next := { registry with factories := registry.factories.insert key factory }
    log := ⟨.info, s!"Registering function '{key}'"⟩ :: replaced }

/-- Registers a factory unless the configuration disables its name. -/
def addEnabled (registry : Registry F) (factory : Factory F) : Step (Registry F) Unit :=
  if registry.config.isEnabled factory.name then registry.add factory
  else
    { answer := (), next := registry
      log := [⟨.info, s!"Skipping disabled function '{factory.name}'"⟩] }

/-- Registers factories one after another, except for those that are disabled. -/
def addAllEnabled (registry : Registry F) : List (Factory F) → Step (Registry F) Unit
  | [] => { answer := (), next := registry }
  | factory :: rest =>
    let first := registry.addEnabled factory
    (first.next.addAllEnabled rest).after first.log

/-- The factories that a registry holds by default, in the order of their registration. -/
def defaults [HasMath F] : List (Factory F) :=
  [MathFunction.Kind.log, .round, .sinh].map fun kind =>
    (MathFunction.factory kind).map HasMath.ofMath

/-- Registers the math functions that are not disabled. -/
def addDefaults [HasMath F] (registry : Registry F) : Step (Registry F) Unit :=
  registry.addAllEnabled defaults

/-- A registry with the math functions that its configuration allows. -/
def ofConfig [HasMath F] (config : ExtensionConfig) : Step (Registry F) Unit :=
  (empty config).addDefaults

def contains (registry : Registry F) (qualifiedName : String) : Bool :=
  registry.factories.contains qualifiedName

/-- The registered qualified names in ascending order. -/
def names (registry : Registry F) : List String :=
  registry.factories.keys.mergeSort fun a b => decide (a ≤ b)

def create (registry : Registry F) (qualifiedName : String) : Except Error F :=
  match registry.factories.get? qualifiedName with
  | some factory => .ok factory.create
  | none => .error (.extensionNotFound "function" qualifiedName)

/-- A call site with a fresh function, validated against its arguments. -/
def build [ScalarFunction F] (registry : Registry F) (qualifiedName : String)
    (arguments : List Argument) (ctx : AppContext) : Step Unit (Except Error (CallSite F)) :=
  match registry.create qualifiedName with
  | .error e => { answer := .error e, next := () }
  | .ok function =>
    (CallSite.compile function arguments ctx).map fun answer => answer.mapError Error.validation

end Registry

end StreamScalar
