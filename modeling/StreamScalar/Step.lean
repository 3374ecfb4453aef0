/-!
# Steps

An operation on a state answers, leaves a next state and may emit log records. `Step` holds the
three; a whole run is a fold of steps.
-/

namespace StreamScalar

inductive LogLevel where
  | error
  | warn
  | info
  | debug
  deriving DecidableEq, Repr

def LogLevel.name : LogLevel → String
  | error => "error"
  | warn => "warn"
  | info => "info"
  | debug => "debug"

structure LogRecord where
  level : LogLevel
  text : String
  deriving DecidableEq, Repr

/-- What an operation on a state of type `σ` leaves behind: its answer, the next state and the
records that it emitted, in order. -/
structure Step (σ α : Type) where
  answer : α
  next : σ
  log : List LogRecord := []

namespace Step

variable {σ τ α β : Type}

/-- The same step with its answer changed. -/
def map (f : α → β) (s : Step σ α) : Step σ β :=
  { answer := f s.answer, next := s.next, log := s.log }

/-- The same step as one of a larger state. -/
def lift (f : σ → τ) (s : Step σ α) : Step τ α :=
  { answer := s.answer, next := f s.next, log := s.log }

/-- The same step after some earlier records. -/
def after (records : List LogRecord) (s : Step σ α) : Step σ α :=
  { s with log := records ++ s.log }

end Step

end StreamScalar
