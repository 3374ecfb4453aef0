/-!
# Lifecycle of a call site
-/

namespace StreamScalar

/-- Where a call site stands. It only moves forward. -/
inductive Lifecycle where
  | created
  | validated
  | started
  | stopped
  deriving DecidableEq, Repr

def Lifecycle.name : Lifecycle → String
  | created => "created"
  | validated => "validated"
  | started => "started"
  | stopped => "stopped"

/-- An operation that is only allowed at certain lifecycle positions. -/
inductive Operation where
  | start
  | stop
  | execute
  deriving DecidableEq, Repr

def Operation.name : Operation → String
  | start => "start"
  | stop => "stop"
  | execute => "execute"

end StreamScalar
