import StreamScalar.Codec.Types
import StreamScalar.Registry

/-!
# A function with state

`runningSum(a)` adds up what it is given: the example of a function that has something to
checkpoint. `HostFunction` joins it with the math functions.
-/

namespace StreamScalar

/-- The sum so far and how many numbers are in it. -/
structure Sum where
  total : Binary64 := .zero
  count : UInt64 := 0
  deriving DecidableEq

def Codec.sum : Codec Sum :=
  (f64.pair u64).map (fun p => ⟨p.1, p.2⟩) fun s => (s.total, s.count)

structure RunningSum where
  displayName : String := StreamScalar.displayName {} "runningSum"
  declared : Option AttributeType := none
  sum : Sum := {}
  deriving DecidableEq

namespace RunningSum

/-- Takes the name of the context, and the argument's type if it is accepted. -/
def validate (f : RunningSum) (arguments : List Argument) (ctx : AppContext) :
    Step RunningSum (Except ValidationError Unit) :=
  let named := { f with displayName := StreamScalar.displayName ctx "runningSum" }
  match checkSignature named.displayName arguments [AttributeType.numeric] with
  | .ok types => { answer := .ok (), next := { named with declared := types.head? } }
  | .error e => { answer := .error e, next := named }

/-- Adds the argument to the sum and answers the new total. A failure leaves the sum. -/
def execute (f : RunningSum) (data : Row) : Step RunningSum (Except ExecutionError Value) :=
  match f.declared with
  | none => { answer := .error (notValidated f.displayName), next := f }
  | some declared =>
    match numericArgument f.displayName data 0 declared with
    | .error e => { answer := .error e, next := f }
    | .ok x =>
      let total := f.sum.total.add x
      { answer := .ok (.double total), next := { f with sum := ⟨total, f.sum.count + 1⟩ } }

/-- Replaces the sum by a captured one; a snapshot that is not one leaves it. -/
def restore (f : RunningSum) (s : Snapshot) : Step RunningSum (Except StateError Unit) :=
  match s.decode 1 Codec.sum with
  | .ok sum => { answer := .ok (), next := { f with sum } }
  | .error e => { answer := .error e, next := f }

instance : ScalarFunction RunningSum where
  name _ := "runningSum"
  validate := validate
  returnType _ := .double
  execute := execute
  snapshot f := .ok (.encode 1 Codec.sum f.sum)
  restore := restore

def factory : Factory RunningSum := { name := "runningSum", create := {} }

end RunningSum

/-- The functions of a host: the math functions and the summing one. -/
inductive HostFunction where
  | math (f : MathFunction)
  | runningSum (f : RunningSum)
  deriving DecidableEq

namespace HostFunction

instance : HasMath HostFunction := ⟨.math⟩

instance : ScalarFunction HostFunction where
  name
    | .math f => ScalarFunction.name f
    | .runningSum f => ScalarFunction.name f
  validate
    | .math f, arguments, ctx => (ScalarFunction.validate f arguments ctx).lift .math
    | .runningSum f, arguments, ctx => (ScalarFunction.validate f arguments ctx).lift .runningSum
  returnType
    | .math f => ScalarFunction.returnType f
    | .runningSum f => ScalarFunction.returnType f
  execute
    | .math f, data => (ScalarFunction.execute f data).lift .math
    | .runningSum f, data => (ScalarFunction.execute f data).lift .runningSum
  start
    | .math f => .math (ScalarFunction.start f)
    | .runningSum f => .runningSum (ScalarFunction.start f)
  stop
    | .math f => .math (ScalarFunction.stop f)
    | .runningSum f => .runningSum (ScalarFunction.stop f)
  snapshot
    | .math f => ScalarFunction.snapshot f
    | .runningSum f => ScalarFunction.snapshot f
  restore
    | .math f, s => (ScalarFunction.restore f s).lift .math
    | .runningSum f, s => (ScalarFunction.restore f s).lift .runningSum

def factory? (name : String) : Option (Factory HostFunction) :=
  let factories := Registry.defaults ++ [RunningSum.factory.map .runningSum]
  factories.find? (·.name == name)

end HostFunction

end StreamScalar
