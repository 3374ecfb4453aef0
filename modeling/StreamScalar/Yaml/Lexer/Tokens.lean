import StreamScalar.Yaml.Lexer.Names
import StreamScalar.Yaml.Lexer.Scalar

/-!
# From text to tokens

* `Token.ofText` : the tokens of a text.
-/

namespace StreamScalar

namespace Yaml

namespace Lex

/-- Passes over blanks, comments and ends of lines in front of the next token. Outside flow
collections a tab is no blank where a key may begin, and the end of a line allows a key. -/
def toNextToken : (fuel : Nat) → Lex Unit
  | 0 => return
  | fuel + 1 => do
    if (← cursor).column == 0 && (← looksAt '\uFEFF') then advance 1
    let tabs := (← inFlow) || !(← get).keyAllowed
    let _ ← takeWhile fun c => c == ' ' || (tabs && c == '\t')
    if ← looksAt '#' then
      let _ ← takeWhile fun c => !isBreak c
    if (← peek).any isBreak then
      let _ ← takeBreak
      unless ← inFlow do allowKey true
      toNextToken fuel

/-- A mark that ends all blocks, with its token. -/
def boundary (read : Lex Token) : Lex Unit := do
  closeBlocks (-1)
  dropKey
  allowKey false
  emit (← read)

/-- The start of a flow collection, which may begin a key. -/
def openFlow (t : Token) : Lex Unit := do
  noteKey
  modify fun s =>
    { s with possibleKey := none, outerKeys := s.possibleKey :: s.outerKeys, keyAllowed := true }
  advance 1
  emit t

def closeFlow (t : Token) : Lex Unit := do
  dropKey
  modify fun s =>
    match s.outerKeys with
    | [] => { s with keyAllowed := false }
    | k :: rest => { s with possibleKey := k, outerKeys := rest, keyAllowed := false }
  advance 1
  emit t

def flowEntry : Lex Unit := do
  dropKey
  allowKey true
  advance 1
  emit .flowEntry

/-- Demands that a key could begin here, outside flow collections. -/
def demandKeyAllowed (what : String) : Lex Unit := do
  unless (← inFlow) || (← get).keyAllowed do fail (.misplaced what)

def blockEntry : Lex Unit := do
  demandKeyAllowed "an entry of a sequence"
  openBlockHere .blockSequenceStart
  dropKey
  allowKey true
  advance 1
  emit .blockEntry

def explicitKey : Lex Unit := do
  demandKeyAllowed "a key"
  openBlockHere .blockMappingStart
  dropKey
  allowKey !(← inFlow)
  advance 1
  emit .key

/-- The colon of a value: behind a simple key, which gets its mark now, or on its own. -/
def valueMark : Lex Unit := do
  match (← get).possibleKey with
  | some k =>
    insertAt k.position .key
    openBlock k.column k.position .blockMappingStart
    modify fun s => { s with possibleKey := none, keyAllowed := false }
  | none =>
    demandKeyAllowed "a value"
    openBlockHere .blockMappingStart
    allowKey !(← inFlow)
  advance 1
  emit .value

/-- A token that may begin a key and after which none may begin at once. -/
def content (read : Lex Token) : Lex Unit := do
  noteKey
  allowKey false
  emit (← read)

/-- A text in a block, after which a key may begin. -/
def blockContent (literal : Bool) : Lex Unit := do
  dropKey
  allowKey true
  emit (← blockScalar literal)

/-- Characters that begin no plain text, or only in front of others. -/
def indicators : List Char :=
  ['-', '?', ':', ',', '[', ']', '\x7b', '\x7d', '#', '&', '*', '!', '|', '>', '\x27', '\x22', '%',
    '@', '`']

/-- Whether a plain text may begin with a character in front of another. -/
def startsPlain (inFlow : Bool) (c : Char) (next : Option Char) : Bool :=
  (!isGap (some c) && !indicators.contains c) ||
    (c == '-' && !next.any isBlank) ||
    (!inFlow && (c == '?' || c == ':') && !isGap next)

/-- Reads one token, with the tokens that its place implies. -/
def nextToken (c : Char) : Lex Unit := do
  let next ← peekAt 1
  let inFlow ← inFlow
  if (← cursor).column == 0 && c == '%' then boundary directive
  else if ← atDocumentMark '-' then boundary do advance 3; return .documentStart
  else if ← atDocumentMark '.' then boundary do advance 3; return .documentEnd
  else if c == '[' then openFlow .flowSequenceStart
  else if c == '\x7b' then openFlow .flowMappingStart
  else if c == ']' then closeFlow .flowSequenceEnd
  else if c == '\x7d' then closeFlow .flowMappingEnd
  else if c == ',' then flowEntry
  else if c == '-' && isGap next then blockEntry
  else if c == '?' && (inFlow || isGap next) then explicitKey
  else if c == ':' && (inFlow || isGap next) then valueMark
  else if c == '*' then content do return .aliasOf (← anchorName)
  else if c == '&' then content do return .anchor (← anchorName)
  else if c == '!' then content tag
  else if c == '|' && !inFlow then blockContent true
  else if c == '>' && !inFlow then blockContent false
  else if c == '\x27' then content (quotedScalar true)
  else if c == '\x22' then content (quotedScalar false)
  else if startsPlain inFlow c next then content plainScalar
  else fail (.misplaced "a character that begins no token")

def allTokens : (fuel : Nat) → Lex Unit
  | 0 => return
  | steps + 1 => do
    toNextToken (← fuel)
    dropStaleKeys
    closeBlocks (← cursor).column
    match ← peek with
    | some c =>
      nextToken c
      allTokens steps
    | none =>
      closeBlocks (-1)
      dropKey

end Lex

def Token.ofText (content : String) : Except Error (List Token) := do
  let chars := content.toList
  match chars.find? fun c => !isAllowed c with
  | some c => .error (.forbiddenCharacter c)
  | none =>
    let ((), lexer) ← (Lex.allTokens (chars.length + 1)).run { cursor := { rest := chars } }
    return lexer.tokens.toList

end Yaml

end StreamScalar
