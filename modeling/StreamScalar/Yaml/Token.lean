/-!
# YAML tokens

What the characters of a YAML text amount to before its structure is known, and why a text is no
YAML.
-/

namespace StreamScalar

namespace Yaml

inductive Error where
  | forbiddenCharacter (c : Char)
  | expected (what : String)
  | misplaced (what : String)
  | duplicate (what : String)
  | undefinedTagHandle (handle : String)
  | undefinedAlias (name : String)
  | unsupportedVersion (major minor : Nat)
  deriving DecidableEq, Repr

def Error.message : Error → String
  | forbiddenCharacter _ => "control characters are not allowed"
  | expected what => s!"expected {what}"
  | misplaced what => s!"{what} is not allowed here"
  | duplicate what => s!"duplicate {what}"
  | undefinedTagHandle handle => s!"undefined tag handle {handle}"
  | undefinedAlias name => s!"undefined alias {name}"
  | unsupportedVersion major minor => s!"unsupported version {major}.{minor}"

/-- A token. The end of the stream is the end of the tokens. -/
inductive Token where
  | versionDirective (major minor : Nat)
  | tagDirective (handle start : String)
  | documentStart
  | documentEnd
  | blockSequenceStart
  | blockMappingStart
  | blockEnd
  | flowSequenceStart
  | flowSequenceEnd
  | flowMappingStart
  | flowMappingEnd
  | blockEntry
  | flowEntry
  | key
  | value
  | aliasOf (name : String)
  | anchor (name : String)
  | tag (handle suffix : String)
  /-- A text, and whether it is plain, without quotes or a block header. -/
  | scalar (plain : Bool) (text : String)
  deriving DecidableEq, Repr

/-! ## Classes of characters -/

/-- Whether a character may stand in a YAML text. -/
def isAllowed (c : Char) : Bool :=
  let n := c.toNat
  n == 0x09 || n == 0x0A || n == 0x0D || (0x20 ≤ n && n ≤ 0x7E) || n == 0x85 ||
    (0xA0 ≤ n && n ≤ 0xD7FF) || (0xE000 ≤ n && n ≤ 0xFFFD) || 0x10000 ≤ n

def isBlank (c : Char) : Bool := c == ' ' || c == '\t'

def isBreak (c : Char) : Bool :=
  c == '\n' || c == '\r' || c == '\u0085' || c == '\u2028' || c == '\u2029'

/-- Whether a place is the end of the text or of a line. -/
def isBreakOrEnd (c : Option Char) : Bool := c.all isBreak

/-- Whether a place is the end of the text or of a line, or a blank. -/
def isGap (c : Option Char) : Bool := c.all fun c => isBlank c || isBreak c

/-- Whether a character may stand in names of anchors, tag handles and directives. -/
def isNameChar (c : Char) : Bool := c.isAlphanum || c == '-' || c == '_'

end Yaml

end StreamScalar
