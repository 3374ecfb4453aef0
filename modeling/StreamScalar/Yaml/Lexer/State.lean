import StreamScalar.Text.Digits
import StreamScalar.Text.Utf8
import StreamScalar.Yaml.Token

/-!
# The state of the lexer

Where the lexer stands in the text, how deep the block structure is indented, and where a simple key
may have begun: the token before a colon turns out to be a key only when the colon is seen, and the
key mark is then put in front of it.
-/

namespace StreamScalar

namespace Yaml

/-- A place in a text with what follows it. -/
structure Cursor where
  rest : List Char
  offset : Nat := 0
  line : Nat := 0
  column : Nat := 0

/-- A token that may turn out to begin a key. -/
structure PossibleKey where
  /-- The number of tokens in front of it. -/
  position : Nat
  offset : Nat
  line : Nat
  column : Nat
  /-- Whether the block structure demands a key here. -/
  required : Bool

/-- The lexer between two tokens. -/
structure Lexer where
  cursor : Cursor
  tokens : Array Token := #[]
  /-- The column of the innermost block, `-1` outside all blocks. -/
  indent : Int := -1
  /-- The columns of the blocks around it, the innermost first. -/
  outerIndents : List Int := []
  keyAllowed : Bool := true
  /-- The possible key of the innermost flow collection, or of the block outside all of them. -/
  possibleKey : Option PossibleKey := none
  outerKeys : List (Option PossibleKey) := []

abbrev Lex (α : Type) := StateT Lexer (Except Error) α

namespace Lex

def fail {α : Type} (e : Error) : Lex α := throw e

def cursor : Lex Cursor := do return (← get).cursor

/-- The character some places ahead, `none` past the end. -/
def peekAt (n : Nat) : Lex (Option Char) := do return (← cursor).rest[n]?

/-- The next character, which stays. -/
def peek : Lex (Option Char) := peekAt 0

def looksAt (c : Char) : Lex Bool := do return (← peek) == some c

/-- Passes over characters of one line. -/
def advance (n : Nat) : Lex Unit :=
  modify fun s =>
    let c := s.cursor
    { s with
      cursor := ⟨c.rest.drop n, c.offset + Utf8.size (c.rest.take n), c.line, c.column + n⟩ }

/-- Takes a run of characters of one line. -/
def takeWhile (p : Char → Bool) : Lex (List Char) := do
  let run := (← cursor).rest.takeWhile p
  advance run.length
  return run

/-- Passes over the end of a line if it comes next. The text that it stands for is a line feed,
except for the separators of lines and paragraphs, which stand for themselves. -/
def takeBreak : Lex (List Char) := do
  let c ← cursor
  let past (n : Nat) (text : List Char) : Lex (List Char) := do
    modify fun s =>
      { s with cursor := ⟨c.rest.drop n, c.offset + Utf8.size (c.rest.take n), c.line + 1, 0⟩ }
    return text
  match c.rest with
  | '\r' :: '\n' :: _ => past 2 ['\n']
  | '\u2028' :: _ => past 1 ['\u2028']
  | '\u2029' :: _ => past 1 ['\u2029']
  | b :: _ => if isBreak b then past 1 ['\n'] else return []
  | [] => return []

/-- Passes over blanks, a comment and the end of the line; nothing else may be left on it. -/
def finishLine : Lex Unit := do
  let _ ← takeWhile isBlank
  if ← looksAt '#' then
    let _ ← takeWhile fun c => !isBreak c
  unless isBreakOrEnd (← peek) do fail (.expected "a comment or the end of the line")
  let _ ← takeBreak

def inFlow : Lex Bool := do return !(← get).outerKeys.isEmpty

/-- Whether three marks at the start of a line and a gap come next: the start of a document with
dashes, its end with dots. -/
def atDocumentMark (mark : Char) : Lex Bool := do
  let c ← cursor
  return c.column == 0 && c.rest.take 3 == [mark, mark, mark] && isGap c.rest[3]?

def atDocumentBoundary : Lex Bool := do
  if ← atDocumentMark '-' then return true else atDocumentMark '.'

def emit (t : Token) : Lex Unit := modify fun s => { s with tokens := s.tokens.push t }

/-- Puts a token in front of those from a position on. -/
def insertAt (position : Nat) (t : Token) : Lex Unit :=
  modify fun s =>
    { s with tokens := (s.tokens.take position).push t ++ s.tokens.drop position }

/-! ## Indentation -/

/-- Closes the blocks that are indented deeper than a column. -/
def closeBlocks (column : Int) : Lex Unit := do
  unless ← inFlow do
    let s ← get
    let columns := s.indent :: s.outerIndents
    let closed := columns.takeWhile fun i => column < i
    let left := columns.drop closed.length
    set { s with
      tokens := s.tokens ++ (closed.map fun _ => Token.blockEnd).toArray
      indent := left.headD (-1)
      outerIndents := left.drop 1 }

/-- Opens a block at a column, if it is deeper than the present one; its opening token is put in
front of those from a position on. -/
def openBlock (column position : Nat) (t : Token) : Lex Unit := do
  unless ← inFlow do
    let s ← get
    if s.indent < column then
      set { s with indent := column, outerIndents := s.indent :: s.outerIndents }
      insertAt position t

def openBlockHere (t : Token) : Lex Unit := do
  openBlock (← cursor).column (← get).tokens.size t

/-! ## Simple keys -/

/-- Gives up the possible key of the present level, which must not be a required one. -/
def dropKey : Lex Unit := do
  if (← get).possibleKey.any (·.required) then fail (.expected "a colon")
  modify fun s => { s with possibleKey := none }

/-- Notes that the token at the present place may begin a key, if one is allowed here. -/
def noteKey : Lex Unit := do
  let s ← get
  if s.keyAllowed then
    let c := s.cursor
    let required := s.outerKeys.isEmpty && s.indent == c.column
    dropKey
    modify fun s =>
      { s with possibleKey := some ⟨s.tokens.size, c.offset, c.line, c.column, required⟩ }

/-- How many octets there may be from the start of a simple key to its colon. -/
def keyLimit : Nat := 1024

/-- Gives up the possible keys that began on an earlier line or too far back. -/
def dropStaleKeys : Lex Unit := do
  let s ← get
  let c := s.cursor
  let isStale := fun k : PossibleKey => k.line < c.line || k.offset + keyLimit < c.offset
  let keys := s.possibleKey :: s.outerKeys
  if keys.any fun k => k.any fun k => isStale k && k.required then fail (.expected "a colon")
  let kept := keys.map fun k => k.filter fun k => !isStale k
  set { s with possibleKey := kept.headD none, outerKeys := kept.drop 1 }

/-- Says whether a simple key may begin at the next token. -/
def allowKey (allowed : Bool) : Lex Unit := modify fun s => { s with keyAllowed := allowed }

end Lex

end Yaml

end StreamScalar
