import StreamScalar.Yaml.Lexer.State

/-!
# YAML scalars

Texts in quotes, plain texts, and texts in blocks. Over several lines, a single end of line in the
first two kinds is folded into a space, and blanks around ends of lines are dropped.
-/

namespace StreamScalar

namespace Yaml

/-- Blanks and ends of lines between two parts of a text. -/
structure Gap where
  blanks : List Char := []
  firstBreak : List Char := []
  /-- What the other ends of lines stand for. -/
  moreBreaks : List Char := []
  acrossLines : Bool := false

/-- The text that a gap stands for between two parts. -/
def Gap.text (g : Gap) : List Char :=
  if g.acrossLines then
    if g.firstBreak = ['\n'] then (if g.moreBreaks.isEmpty then [' '] else g.moreBreaks)
    else g.firstBreak ++ g.moreBreaks
  else g.blanks

namespace Lex

/-- Reads blanks and ends of lines. Behind the end of a line, a tab must not stand in front of the
column `indent`. -/
def gap (indent : Int) : (fuel : Nat) → Gap → Lex Gap
  | 0, g => return g
  | fuel + 1, g => do
    match ← peek with
    | none => return g
    | some c =>
      if isBlank c then
        if g.acrossLines && c == '\t' && (← cursor).column < indent then
          fail (.misplaced "a tab")
        advance 1
        gap indent fuel (if g.acrossLines then g else { g with blanks := g.blanks ++ [c] })
      else if isBreak c then
        let text ← takeBreak
        gap indent fuel
          (if g.acrossLines then { g with moreBreaks := g.moreBreaks ++ text }
          else { firstBreak := text, acrossLines := true })
      else return g

/-- The count of characters left, plus one: more than any part of the text has steps. -/
def fuel : Lex Nat := do return (← cursor).rest.length + 1

/-! ## Quoted texts -/

/-- The characters that a backslash and one more character stand for. -/
def escapes : List (Char × Char) :=
  [('0', '\x00'), ('a', '\x07'), ('b', '\x08'), ('t', '\t'), ('\t', '\t'), ('n', '\n'),
    ('v', '\x0b'), ('f', '\x0c'), ('r', '\r'), ('e', '\x1b'), (' ', ' '), ('\x22', '\x22'),
    ('/', '/'), ('\\', '\\'), ('N', '\u0085'), ('_', '\u00a0'), ('L', '\u2028'), ('P', '\u2029')]

/-- How many hexadecimal digits of a character's number follow an escape. -/
def numberedEscapes : List (Char × Nat) := [('x', 2), ('u', 4), ('U', 8)]

/-- What a backslash and the characters behind it stand for. -/
def escape : Lex Char := do
  let some c ← peekAt 1 | fail (.expected "an escape")
  advance 2
  match escapes.lookup c, numberedEscapes.lookup c with
  | some meant, _ => return meant
  | none, some count =>
    let digits := (← cursor).rest.take count
    unless digits.length == count && digits.all Text.isHexDigit do
      fail (.expected "a hexadecimal number")
    advance count
    let n := Text.digitsValue 16 digits
    if h : n.isValidChar then return Char.ofNatAux n h else fail (.expected "a character number")
  | none, none => fail (.expected "an escape")

/-- Whether a character stands for itself in a quoted text. -/
def isQuotedPlain (single : Bool) (c : Char) : Bool :=
  !isBlank c && !isBreak c && (if single then c != '\x27' else c != '\x22' && c != '\\')

/-- The characters of a quoted text up to a gap, the closing quote or an escaped end of a line, and
whether it is the last of these. -/
def quotedRun (single : Bool) : (fuel : Nat) → Lex (List Char × Bool)
  | 0 => return ([], false)
  | fuel + 1 => do
    let run ← takeWhile (isQuotedPlain single)
    let after (c : Char) : Lex (List Char × Bool) := do
      let (text, escapedBreak) ← quotedRun single fuel
      return (run ++ c :: text, escapedBreak)
    match ← peek, ← peekAt 1 with
    | some '\x27', some '\x27' =>
      if single then
        advance 2
        after '\x27'
      else return (run, false)
    | some '\\', next =>
      if single then return (run, false)
      else if next.any isBreak then
        advance 1
        let _ ← takeBreak
        return (run, true)
      else after (← escape)
    | _, _ => return (run, false)

/-- The text up to the closing quote, the opening one being read. -/
def quotedText (single : Bool) : (fuel : Nat) → List Char → Lex (List Char)
  | 0, _ => fail (.expected "a closing quote")
  | steps + 1, text => do
    if ← atDocumentBoundary then fail (.misplaced "the boundary of a document")
    let (run, escapedBreak) ← quotedRun single (← fuel)
    let text := text ++ run
    match ← peek with
    | none => fail (.expected "a closing quote")
    | some c =>
      if c == (if single then '\x27' else '\x22') then
        advance 1
        return text
      else
        let g ← gap 0 (← fuel) { acrossLines := escapedBreak }
        quotedText single steps (text ++ g.text)

def quotedScalar (single : Bool) : Lex Token := do
  advance 1
  return .scalar false (String.ofList (← quotedText single (← fuel) []))

/-! ## Plain texts -/

def flowMarks : List Char := [',', '[', ']', '\x7b', '\x7d']

/-- The characters in front of a gap or of a mark that ends a plain text: a colon in front of a gap
and, in a flow collection, one of its marks. -/
def plainRun (inFlow : Bool) : List Char → Except Error (List Char)
  | [] => .ok []
  | c :: rest =>
    if isGap (some c) then .ok []
    else if inFlow && c == ':' && rest.head?.any fun d => d == '?' || flowMarks.contains d then
      .error (.misplaced "a colon")
    else if (c == ':' && isGap rest.head?) || (inFlow && flowMarks.contains c) then .ok []
    else (plainRun inFlow rest).map (c :: ·)

/-- The plain text that goes on after a gap behind some characters, and whether it ends behind the
end of a line. Outside flow collections it goes on only on lines that are indented as far as
`indent`. -/
def plainText (inFlow : Bool) (indent : Int) :
    (fuel : Nat) → List Char → Gap → Lex (List Char × Bool)
  | 0, text, g => return (text, g.acrossLines)
  | steps + 1, text, g => do
    if (← atDocumentBoundary) || (← looksAt '#') then return (text, g.acrossLines)
    let run ← (plainRun inFlow (← cursor).rest : Except Error (List Char))
    advance run.length
    let text := if run.isEmpty then text else text ++ g.text ++ run
    let acrossLines := g.acrossLines && run.isEmpty
    if (← peek).isNone || !isGap (← peek) then return (text, acrossLines)
    let g ← gap indent (← fuel) {}
    if !inFlow && (← cursor).column < indent then return (text, g.acrossLines)
    plainText inFlow indent steps text g

/-- A plain text. If it ends behind the end of a line, a key may follow. -/
def plainScalar : Lex Token := do
  let (text, acrossLines) ← plainText (← inFlow) ((← get).indent + 1) (← fuel) [] {}
  if acrossLines then allowKey true
  return .scalar true (String.ofList text)

/-! ## Texts in blocks -/

/-- What becomes of the ends of lines at the end of a text in a block. -/
inductive Chomping where
  /-- All are dropped. -/
  | strip
  /-- The first is kept. -/
  | clip
  /-- All are kept. -/
  | keep

/-- The chomping that a header states at this place. -/
def chomping? : Lex (Option Chomping) := do
  match ← peek with
  | some '+' => advance 1; return some .keep
  | some '-' => advance 1; return some .strip
  | _ => return none

/-- The indentation that a header states at this place. -/
def increment? : Lex (Option Nat) := do
  match ← peek with
  | some c =>
    if c == '0' then fail (.misplaced "an indentation of zero")
    else if c.isDigit then
      advance 1
      return some (Text.digitValue c)
    else return none
  | none => return none

/-- Passes over ends of lines and the indentation behind them, and gives what the ends stand for
and the indentation of the block. An indentation not known yet is that of the deepest of these
lines, but at least `least`. -/
def blockBreaks (least : Nat) (indent : Option Nat) :
    (fuel : Nat) → (deepest : Nat) → List Char → Lex (Nat × List Char)
  | 0, deepest, breaks => return (indent.getD (max deepest least), breaks)
  | steps + 1, deepest, breaks => do
    let c ← cursor
    let spaces := (c.rest.takeWhile (· == ' ')).length
    advance (indent.elim spaces fun i => min spaces (i - c.column))
    let column := (← cursor).column
    let deepest := max deepest column
    if (indent.all fun i => column < i) && (← looksAt '\t') then
      fail (.misplaced "a tab")
    if (← peek).any isBreak then
      let text ← takeBreak
      blockBreaks least indent steps deepest (breaks ++ text)
    else return (indent.getD (max deepest least), breaks)

/-- The lines of a text in a block. Where `literal` is false, a single end of a line between two
lines that do not begin with a blank is folded into a space. -/
def blockLines (literal : Bool) (least indent : Nat) :
    (fuel : Nat) → (text lastBreak moreBreaks : List Char) → (lastBlank : Bool) →
      Lex (List Char × List Char × List Char)
  | 0, text, lastBreak, moreBreaks, _ => return (text, lastBreak, moreBreaks)
  | steps + 1, text, lastBreak, moreBreaks, lastBlank => do
    if (← cursor).column != indent || (← peek).isNone then return (text, lastBreak, moreBreaks)
    let startsBlank := (← peek).any isBlank
    let joint :=
      if !literal && lastBreak == ['\n'] && !lastBlank && !startsBlank then
        (if moreBreaks.isEmpty then [' '] else [])
      else lastBreak
    let line ← takeWhile fun c => !isBreak c
    let lastBreak ← takeBreak
    let text := text ++ joint ++ moreBreaks ++ line
    let (_, moreBreaks) ← blockBreaks least (some indent) (← fuel) 0 []
    blockLines literal least indent steps text lastBreak moreBreaks startsBlank

def blockScalar (literal : Bool) : Lex Token := do
  advance 1
  let before ← chomping?
  let increment ← increment?
  let after ← if before.isNone && increment.isSome then chomping? else pure none
  finishLine
  let indent := (← get).indent
  let least := (max 1 (indent + 1)).toNat
  let stated := increment.map fun n => (max 0 indent).toNat + n
  let (indent, breaks) ← blockBreaks least stated (← fuel) 0 []
  let (text, lastBreak, moreBreaks) ← blockLines literal least indent (← fuel) [] [] breaks false
  let tail := match (before.or after).getD .clip with
    | .strip => []
    | .clip => lastBreak
    | .keep => lastBreak ++ moreBreaks
  return .scalar false (String.ofList (text ++ tail))

end Lex

end Yaml

end StreamScalar
