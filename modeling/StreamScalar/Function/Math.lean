import StreamScalar.Decimal.Shortest
import StreamScalar.Elementary.HyperbolicSine
import StreamScalar.Function.Contract

/-!
# The math functions

`log(number, base)`, `round(a)` and `sinh(a)`. They keep no state beyond the signature that
validation fixes: an event changes nothing, and what they restore they ignore.

* `MathFunction.evaluate` : the result on the numbers of one event.
* `MathFunction.instScalarFunction` : the functions fulfil the contract.
-/

namespace StreamScalar

namespace MathFunction

inductive Kind where
  | log
  | round
  | sinh
  deriving DecidableEq, Repr

namespace Kind

def name : Kind → String
  | log => "log"
  | round => "round"
  | sinh => "sinh"

/-- The accepted types of each parameter. -/
def parameters : Kind → List (List AttributeType)
  | log => [AttributeType.numeric, AttributeType.numeric]
  | round => [AttributeType.floating]
  | sinh => [AttributeType.numeric]

/-- The type of the results for declared argument types: a rounded single is an `INT`, a rounded
double a `LONG`, and every other result a `DOUBLE`. -/
def returnType : Kind → List AttributeType → AttributeType
  | round, .float :: _ => .int
  | round, _ => .long
  | log, _ | sinh, _ => .double

end Kind

/-- The logarithm of a number to a base. The logarithm to base one is undefined; any other base has
a quotient, perhaps infinite or not a number. -/
def logarithm (function : String) (number base : Binary64) : Except ExecutionError Value :=
  if base.equals .one then
    .error (.undefinedDomain function
      s!"logarithm to base 1 is undefined (number = {number.text})")
  else .ok (.double (number.ln.div base.ln))

/-- The nearest whole number, ties upwards, as a value of the return type. -/
def rounded (returnType : AttributeType) (x : Binary64) : Value :=
  match returnType with
  | .int => .int x.roundHalfUp.toInt32
  | _ => .long x.roundHalfUp.toInt64

end MathFunction

structure MathFunction where
  kind : MathFunction.Kind
  displayName : String
  /-- The declared argument types of the last successful validation. -/
  signature : Option (List AttributeType)
  deriving DecidableEq

namespace MathFunction

/-- A fresh instance, which goes by the default namespace until it is validated. -/
def create (kind : Kind) : MathFunction where
  kind := kind
  displayName := StreamScalar.displayName {} kind.name
  signature := none

/-- Takes the name of the context, and the signature if the arguments are accepted. -/
def validate (f : MathFunction) (arguments : List Argument) (ctx : AppContext) :
    Step MathFunction (Except ValidationError Unit) :=
  let named := { f with displayName := StreamScalar.displayName ctx f.kind.name }
  match checkSignature named.displayName arguments f.kind.parameters with
  | .ok types => { answer := .ok (), next := { named with signature := some types } }
  | .error e => { answer := .error e, next := named }

/-- The type of the results; `round` has none before its validation. -/
def returnType (f : MathFunction) : AttributeType :=
  match f.kind, f.signature with
  | .round, none => .object
  | kind, signature => kind.returnType (signature.getD [])

/-- The result of a validated function on the argument values of one event. Arguments are taken
from the first on. -/
def evaluate (f : MathFunction) (types : List AttributeType) (data : Row) :
    Except ExecutionError Value := do
  let argument := fun position =>
    numericArgument f.displayName data position (types.getD position .object)
  match f.kind with
  | .log =>
    let number ← argument 0
    let base ← argument 1
    logarithm f.displayName number base
  | .round => return rounded (f.kind.returnType types) (← argument 0)
  | .sinh => return .double (← argument 0).sinh

def execute (f : MathFunction) (data : Row) : Except ExecutionError Value :=
  match f.signature with
  | none => .error (notValidated f.displayName)
  | some types => f.evaluate types data

instance instScalarFunction : ScalarFunction MathFunction where
  name f := f.kind.name
  validate := validate
  returnType := returnType
  execute f data := { answer := f.execute data, next := f }

end MathFunction

end StreamScalar
