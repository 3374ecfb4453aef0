/-!
# Readers

A reader takes what it needs from the front of a text, or fails.
-/

namespace StreamScalar

/-- Takes a value from the front of a text and leaves the rest, or fails with an `ε`. -/
abbrev Reader (ε α : Type) := StateT (List Char) (Except ε) α

namespace Reader

variable {ε α : Type}

def fail (e : ε) : Reader ε α := throw e

/-- The next character, which stays. -/
def peek? : Reader ε (Option Char) := do
  return (← get).head?

/-- Whether the text goes on with some characters, which stay. -/
def looksAt (start : String) : Reader ε Bool := do
  return start.toList.isPrefixOf (← get)

def skip (count : Nat) : Reader ε Unit := modify (·.drop count)

def takeWhile (p : Char → Bool) : Reader ε (List Char) := do
  let cs ← get
  set (cs.dropWhile p)
  return cs.takeWhile p

/-- Takes a run of characters of a class that is not empty. -/
def takeWhile1 (p : Char → Bool) (otherwise : ε) : Reader ε (List Char) := do
  match ← takeWhile p with
  | [] => fail otherwise
  | cs => return cs

/-- Passes over a character if it comes next, and says whether it did. -/
def optional (c : Char) : Reader ε Bool := do
  match ← get with
  | d :: rest => if d = c then set rest; return true else return false
  | [] => return false

/-- Passes over some characters, which have to come next. -/
def expect (start : String) (otherwise : ε) : Reader ε Unit := do
  if ← looksAt start then skip start.length else fail otherwise

end Reader

end StreamScalar
