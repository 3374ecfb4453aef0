import StreamScalar.Text.Digits
import StreamScalar.Text.Reader
import StreamScalar.Toml.Item

/-!
# Keys, texts and blanks of TOML
-/

namespace StreamScalar

namespace Toml

/-- A reader of a part of a TOML document. -/
abbrev Read (α : Type) := Reader Error α

def isBlank (c : Char) : Bool := c == ' ' || c == '\t'

/-- Whether a character may stand in a comment: all but the controls other than the tab. -/
def isVisible (c : Char) : Bool :=
  c == '\t' || (0x20 ≤ c.toNat && c.toNat != 0x7F)

def blanks : Read Unit := discard (Reader.takeWhile isBlank)

/-- Passes over the end of a line if it comes next, and says whether it did. -/
def newline? : Read Bool := do
  match ← get with
  | '\n' :: rest => set rest; return true
  | '\r' :: '\n' :: rest => set rest; return true
  | _ => return false

/-- Passes over a comment if one comes next. -/
def comment : Read Unit := do
  if ← Reader.optional '#' then discard (Reader.takeWhile isVisible)

/-- Passes over what may follow on a line, and its end. -/
def lineEnd : Read Unit := do
  blanks
  comment
  unless ← newline? do
    if (← Reader.peek?).isSome then Reader.fail (.expected "the end of the line")

/-- Passes over blanks, ends of lines and comments, at most as many runs of them as `fuel`. -/
def blankLines : (fuel : Nat) → Read Unit
  | 0 => return
  | fuel + 1 => do
    let before ← get
    blanks
    comment
    let _ ← newline?
    if (← get).length < before.length then blankLines fuel

/-- Passes over all blanks, ends of lines and comments. -/
def space : Read Unit := do blankLines (← get).length

/-- Passes over blanks and ends of lines, at most as many of the latter as `fuel`. -/
def emptyLines : (fuel : Nat) → Read Unit
  | 0 => return
  | fuel + 1 => do
    blanks
    if ← newline? then emptyLines fuel

/-- A character given by its number in a fixed count of hexadecimal digits. -/
def numberedChar (count : Nat) : Read Char := do
  let digits := (← get).take count
  if digits.length = count ∧ digits.all Text.isHexDigit then
    Reader.skip count
    let n := Text.digitsValue 16 digits
    if h : n.isValidChar then return Char.ofNatAux n h
    else Reader.fail (.outOfRange "a character")
  else Reader.fail (.expected "hexadecimal digits")

/-- What a backslash and the character after it stand for, the backslash being read. -/
def escaped : Read Char := do
  let c ← Reader.peek?
  Reader.skip 1
  match c with
  | some 'b' => return '\x08'
  | some 'f' => return '\x0c'
  | some 'n' => return '\n'
  | some 'r' => return '\r'
  | some 't' => return '\t'
  | some '\\' => return '\\'
  | some '\x22' => return '\x22'
  | some 'u' => numberedChar 4
  | some 'U' => numberedChar 8
  | _ => Reader.fail (.expected "an escape")

/-- The kinds of text: in double quotes with escapes, in single quotes without. -/
structure Quotes where
  mark : Char
  escapes : Bool

def Quotes.basic : Quotes := ⟨'\x22', true⟩
def Quotes.literal : Quotes := ⟨'\x27', false⟩

/-- Whether a character stands for itself between quotes. -/
def Quotes.isPlain (q : Quotes) (c : Char) : Bool :=
  isVisible c && c != q.mark && !(q.escapes && c == '\\')

/-- The rest of a text on one line, up to its closing quote. -/
def Quotes.line (q : Quotes) : (fuel : Nat) → Read (List Char)
  | 0 => Reader.fail (.expected "a closing quote")
  | fuel + 1 => do
    let plain ← Reader.takeWhile q.isPlain
    if ← Reader.optional q.mark then return plain
    else if q.escapes && (← Reader.optional '\\') then
      let c ← escaped
      return plain ++ c :: (← q.line fuel)
    else Reader.fail (.expected "a closing quote")

/-- The rest of a text over several lines, up to its three closing quotes. Up to two quotes are
text, also in front of the closing ones; a backslash at the end of a line hides it and all blanks
and ends of lines that follow. -/
def Quotes.lines (q : Quotes) : (fuel : Nat) → Read (List Char)
  | 0 => Reader.fail (.expected "closing quotes")
  | fuel + 1 => do
    let plain ← Reader.takeWhile q.isPlain
    if ← newline? then return plain ++ '\n' :: (← q.lines fuel)
    else if q.escapes && (← Reader.optional '\\') then
      let kept ← get
      blanks
      if ← newline? then
        emptyLines ((← get).length + 1)
        return plain ++ (← q.lines fuel)
      else
        set kept
        let c ← escaped
        return plain ++ c :: (← q.lines fuel)
    else
      let quotes := ((← get).takeWhile (· == q.mark)).length
      if quotes = 0 then Reader.fail (.expected "closing quotes")
      else if quotes < 3 then
        Reader.skip quotes
        return plain ++ List.replicate quotes q.mark ++ (← q.lines fuel)
      else
        let closing := min quotes 5
        Reader.skip closing
        return plain ++ List.replicate (closing - 3) q.mark

/-- A text in one kind of quotes, the opening one being next. -/
def Quotes.read (q : Quotes) (severalLines : Bool) : Read String := do
  let triple := String.ofList [q.mark, q.mark, q.mark]
  if severalLines && (← Reader.looksAt triple) then
    Reader.skip 3
    let _ ← newline?
    return String.ofList (← q.lines ((← get).length + 1))
  else
    Reader.skip 1
    return String.ofList (← q.line ((← get).length + 1))

/-- A part of a dotted key: quoted, or made of letters, digits, dashes and underscores. -/
def simpleKey : Read String := do
  match ← Reader.peek? with
  | some '\x22' => Quotes.basic.read false
  | some '\x27' => Quotes.literal.read false
  | _ =>
    let isBare := fun c : Char => c.isAlphanum || c == '-' || c == '_'
    return String.ofList (← Reader.takeWhile1 isBare (.expected "a key"))

/-- The parts of a dotted key, with blanks around them. -/
def keyParts : (fuel : Nat) → Read (List String)
  | 0 => Reader.fail (.expected "a key")
  | fuel + 1 => do
    blanks
    let part ← simpleKey
    blanks
    if ← Reader.optional '.' then return part :: (← keyParts fuel) else return [part]

/-- The number of levels from which on keys and values are nested too deeply. -/
def depthLimit : Nat := 80

/-- A dotted key: the parts before the last one, and the last one. -/
def dottedKey : Read (List String × String) := do
  let parts ← keyParts ((← get).length + 1)
  if depthLimit ≤ parts.length then Reader.fail .tooDeep
  else return (parts.dropLast, parts.getLastD "")

end Toml

end StreamScalar
