import StreamScalar.Text.Utf8
import StreamScalar.Yaml.Lexer.State

/-!
# Directives, anchors, aliases and tags of YAML
-/

namespace StreamScalar

namespace Yaml

namespace Lex

def anchorName : Lex String := do
  advance 1
  let name ← takeWhile isNameChar
  let next ← peek
  let ends := isGap next || next.any fun c => ['?', ':', ',', ']', '\x7d', '%', '@', '`'].contains c
  if name.isEmpty || !ends then fail (.expected "a name")
  return String.ofList name

/-! ## Tags -/

/-- The octet of a percent sign and two hexadecimal digits. -/
def uriOctet : Lex Nat := do
  match (← cursor).rest.take 3 with
  | ['%', a, b] =>
    if Text.isHexDigit a && Text.isHexDigit b then
      advance 3
      return 16 * Text.digitValue a + Text.digitValue b
    else fail (.expected "an escaped octet")
  | _ => fail (.expected "an escaped octet")

/-- The octets of a character that follow its first one. -/
def uriTail : (count : Nat) → Lex (List Nat)
  | 0 => return []
  | count + 1 => do
    let octet ← uriOctet
    unless octet / 64 == 2 do fail (.expected "a trailing octet")
    return octet :: (← uriTail count)

/-- The octets of an escaped character. Only their form is judged. -/
def uriEscape : Lex (List Nat) := do
  let octet ← uriOctet
  let more ←
    if octet < 0x80 then pure 0
    else if octet / 32 == 6 then pure 1
    else if octet / 16 == 14 then pure 2
    else if octet / 8 == 30 then pure 3
    else fail (.expected "a leading octet")
  return octet :: (← uriTail more)

/-- Whether a character may stand in a tag as itself. -/
def isUriChar (verbatim : Bool) (c : Char) : Bool :=
  isNameChar c || [';', '/', '?', ':', '@', '&', '=', '+', '$', '.', '!', '~', '*', '\x27', '(',
    ')'].contains c || (verbatim && [',', '[', ']'].contains c)

/-- The characters and escapes of a tag, as they are written. -/
def uriText (verbatim : Bool) : (fuel : Nat) → Lex (List Char)
  | 0 => return []
  | fuel + 1 => do
    let run ← takeWhile (isUriChar verbatim)
    if ← looksAt '%' then
      let start := (← cursor).rest
      let octets ← uriEscape
      return run ++ start.take (3 * octets.length) ++ (← uriText verbatim fuel)
    else return run

/-- A tag or the end of one; it is not empty. -/
def uri (verbatim : Bool) (start : List Char) : Lex String := do
  let text := start ++ (← uriText verbatim ((← cursor).rest.length + 1))
  if text.isEmpty then fail (.expected "a tag")
  return String.ofList text

/-- A tag handle, or the start of a tag that has none: an exclamation mark, a name, and perhaps a
second mark. -/
def handle : Lex (List Char) := do
  unless ← looksAt '!' do fail (.expected "an exclamation mark")
  advance 1
  let name ← takeWhile isNameChar
  if ← looksAt '!' then
    advance 1
    return '!' :: name ++ ['!']
  else return '!' :: name

/-- Whether a text is a tag handle with a mark at both ends. -/
def isFullHandle (handle : List Char) : Bool :=
  2 ≤ handle.length && handle.getLast? == some '!'

/-- A tag: verbatim in angle brackets, with a handle, or local. -/
def tag : Lex Token := do
  let found ← if (← peekAt 1) == some '<' then do
      advance 2
      let suffix ← uri true []
      unless ← looksAt '>' do fail (.expected "a closing angle bracket")
      advance 1
      pure (Token.tag "" suffix)
    else do
      let start ← handle
      if isFullHandle start then pure (Token.tag (String.ofList start) (← uri false []))
      else
        let whole ← uri false start
        if whole == "!" then pure (Token.tag "" "!")
        else pure (Token.tag "!" (String.ofList (whole.toList.drop 1)))
  let next ← peek
  unless isGap next || ((← inFlow) && next == some ',') do fail (.expected "a blank")
  return found

/-! ## Directives -/

/-- The greatest number of digits in a version number. -/
def versionDigits : Nat := 9

def versionNumber : Lex Nat := do
  let digits ← takeWhile Char.isDigit
  if digits.isEmpty || versionDigits < digits.length then fail (.expected "a version number")
  return Text.digitsValue 10 digits

/-- A directive with the rest of its line. -/
def directive : Lex Token := do
  advance 1
  let name ← takeWhile isNameChar
  if name.isEmpty || !isGap (← peek) then fail (.expected "the name of a directive")
  let found ← match String.ofList name with
    | "YAML" => do
      let _ ← takeWhile isBlank
      let major ← versionNumber
      unless ← looksAt '.' do fail (.expected "a point")
      advance 1
      pure (Token.versionDirective major (← versionNumber))
    | "TAG" => do
      let _ ← takeWhile isBlank
      let handle ← handle
      unless isFullHandle handle || handle.length == 1 do fail (.expected "an exclamation mark")
      unless (← peek).any isBlank do fail (.expected "a blank")
      let _ ← takeWhile isBlank
      let start ← uri true []
      unless isGap (← peek) do fail (.expected "a blank")
      pure (Token.tagDirective (String.ofList handle) start)
    | _ => fail (.expected "a known directive")
  finishLine
  return found

end Lex

end Yaml

end StreamScalar
