import StreamScalar.Yaml.Lexer.Tokens
import StreamScalar.Yaml.Node

/-!
# YAML documents

From tokens to the root node of the only document of a stream.

* `Document.ofText` : the root node of a text, `none` if there is no document in it.
-/

namespace StreamScalar

namespace Yaml

/-- Takes a part of the structure from the front of some tokens, or fails. -/
abbrev Parse (α : Type) := StateT (List Token) (Except Error) α

/-- How a node is read: whether blocks may begin here, and whether the entries of a sequence may
begin here without a deeper indentation. -/
abbrev NodeReader := (block indentless : Bool) → Parse (Node String)

abbrev TagHandles := List (String × String)

/-- The handles that need no directive. -/
def defaultHandles : TagHandles := [("!", "!"), ("!!", "tag:yaml.org,2002:")]

namespace Parse

def fail {α : Type} (e : Error) : Parse α := throw e

/-- The next token, which stays. -/
def peek : Parse (Option Token) := do return (← get).head?

def skip : Parse Unit := modify (·.drop 1)

def comesNext (tokens : List Token) : Parse Bool := do
  return (← peek).any tokens.contains

/-- A node, or the absent node if one of some tokens comes next. -/
def nodeUnless (tokens : List Token) (read : Parse (Node String)) : Parse (Node String) := do
  if ← comesNext tokens then return .absent else read

/-- The value behind a value mark, or the absent node where there is no mark or, in front of some
tokens, nothing behind it. -/
def valueUnless (tokens : List Token) (read : Parse (Node String)) : Parse (Node String) := do
  if ← comesNext [.value] then
    skip
    nodeUnless tokens read
  else return .absent

def blockSequence (node : NodeReader) : (fuel : Nat) → Parse (List (Node String))
  | 0 => fail (.expected "the end of a sequence")
  | fuel + 1 => do
    match ← peek with
    | some .blockEntry =>
      skip
      let item ← nodeUnless [.blockEntry, .blockEnd] (node true false)
      return item :: (← blockSequence node fuel)
    | some .blockEnd =>
      skip
      return []
    | _ => fail (.expected "an entry of a sequence")

/-- The entries of a sequence that is indented no deeper than the mapping around it. -/
def indentlessSequence (node : NodeReader) : (fuel : Nat) → Parse (List (Node String))
  | 0 => return []
  | fuel + 1 => do
    if ← comesNext [.blockEntry] then
      skip
      let item ← nodeUnless [.blockEntry, .key, .value, .blockEnd] (node true false)
      return item :: (← indentlessSequence node fuel)
    else return []

def blockMapping (node : NodeReader) : (fuel : Nat) → Parse (List (Node String × Node String))
  | 0 => fail (.expected "the end of a mapping")
  | fuel + 1 => do
    match ← peek with
    | some .key =>
      skip
      let key ← nodeUnless [.key, .value, .blockEnd] (node true true)
      let value ← valueUnless [.key, .value, .blockEnd] (node true true)
      return (key, value) :: (← blockMapping node fuel)
    | some .blockEnd =>
      skip
      return []
    | _ => fail (.expected "a key")

/-- A mapping of one entry, written as an item of a flow sequence, behind its key mark. Where the
key is absent, the token that shows it is passed over. -/
def flowPair (node : NodeReader) : Parse (Node String) := do
  let key ← if ← comesNext [.value, .flowEntry, .flowSequenceEnd] then do
      skip
      pure Node.absent
    else node false false
  let value ← valueUnless [.flowEntry, .flowSequenceEnd] (node false false)
  return .mapping none [(key, value)]

/-- The items of a flow sequence and its end; behind the first item a comma is due. -/
def flowSequence (node : NodeReader) : (fuel : Nat) → (first : Bool) → Parse (List (Node String))
  | 0, _ => fail (.expected "the end of a sequence")
  | fuel + 1, first => do
    if ← comesNext [.flowSequenceEnd] then
      skip
      return []
    unless first do
      unless ← comesNext [.flowEntry] do fail (.expected "a comma or the end of a sequence")
      skip
    match ← peek with
    | some .flowSequenceEnd =>
      skip
      return []
    | some .key =>
      skip
      let item ← flowPair node
      return item :: (← flowSequence node fuel false)
    | _ =>
      let item ← node false false
      return item :: (← flowSequence node fuel false)

/-- The entries of a flow mapping and its end; behind the first entry a comma is due. -/
def flowMapping (node : NodeReader) :
    (fuel : Nat) → (first : Bool) → Parse (List (Node String × Node String))
  | 0, _ => fail (.expected "the end of a mapping")
  | fuel + 1, first => do
    if ← comesNext [.flowMappingEnd] then
      skip
      return []
    unless first do
      unless ← comesNext [.flowEntry] do fail (.expected "a comma or the end of a mapping")
      skip
    match ← peek with
    | some .flowMappingEnd =>
      skip
      return []
    | some .key =>
      skip
      let key ← nodeUnless [.value, .flowEntry, .flowMappingEnd] (node false false)
      let value ← valueUnless [.flowEntry, .flowMappingEnd] (node false false)
      return (key, value) :: (← flowMapping node fuel false)
    | _ =>
      let key ← node false false
      return (key, .absent) :: (← flowMapping node fuel false)

/-- Passes over a tag if one comes next, and says whether one did. Its handle has to be known. -/
def tag? (handles : TagHandles) : Parse Bool := do
  match ← peek with
  | some (.tag handle _) =>
    skip
    unless handle.isEmpty || (handles.lookup handle).isSome do
      fail (.undefinedTagHandle handle)
    return true
  | _ => return false

/-- Takes an anchor if one comes next. -/
def anchor? : Parse (Option String) := do
  match ← peek with
  | some (.anchor name) =>
    skip
    return some name
  | _ => return none

/-- The anchor in front of a node, and whether there is an anchor or a tag; they may come in either
order. -/
def properties (handles : TagHandles) : Parse (Option String × Bool) := do
  match ← anchor? with
  | some name =>
    let _ ← tag? handles
    return (some name, true)
  | none =>
    if ← tag? handles then return (← anchor?, true) else return (none, false)

/-- A node, `inner` reading the nodes in it. -/
def nodeOf (handles : TagHandles) (inner : NodeReader) : NodeReader := fun block indentless => do
  if let some (.aliasOf name) ← peek then
    skip
    return .aliasOf name
  let (anchor, marked) ← properties handles
  let fuel := (← get).length + 1
  match ← peek with
  | some (.scalar plain text) =>
    skip
    return .scalar anchor plain text
  | some .flowSequenceStart =>
    skip
    return .sequence anchor (← flowSequence inner fuel true)
  | some .flowMappingStart =>
    skip
    return .mapping anchor (← flowMapping inner fuel true)
  | next =>
    if indentless && next == some .blockEntry then
      return .sequence anchor (← indentlessSequence inner fuel)
    else if block && next == some .blockSequenceStart then
      skip
      return .sequence anchor (← blockSequence inner fuel)
    else if block && next == some .blockMappingStart then
      skip
      return .mapping anchor (← blockMapping inner fuel)
    else if marked then return .scalar anchor true ""
    else fail (.expected "a node")

/-- A node in which others are nested at most `depth` levels deep. -/
def node (handles : TagHandles) : (depth : Nat) → NodeReader
  | 0 => fun _ _ => fail (.expected "a node")
  | depth + 1 => nodeOf handles (node handles depth)

/-- A node of any depth: every level takes a token. -/
def anyNode (handles : TagHandles) : Parse (Node String) := do
  node handles ((← get).length + 1) true false

/-! ## Documents -/

/-- The directives in front of a document: at most one version, which has to be 1.1 or 1.2, and tag
handles, none twice. -/
def directives : (fuel : Nat) → (versioned : Bool) → TagHandles → Parse TagHandles
  | 0, _, handles => return handles
  | fuel + 1, versioned, handles => do
    match ← peek with
    | some (.versionDirective major minor) =>
      if versioned then fail (.duplicate "version")
      unless major == 1 && (minor == 1 || minor == 2) do fail (.unsupportedVersion major minor)
      skip
      directives fuel true handles
    | some (.tagDirective handle start) =>
      if (handles.lookup handle).isSome then fail (.duplicate "tag handle")
      skip
      directives fuel versioned ((handle, start) :: handles)
    | _ => return handles

/-- Whether the content of a document ends before it has begun. -/
def atEmptyContent : Parse Bool := do
  match ← peek with
  | none | some (.versionDirective ..) | some (.tagDirective ..) | some .documentStart
  | some .documentEnd => return true
  | _ => return false

def documentEnds : (fuel : Nat) → Parse Unit
  | 0 => return
  | fuel + 1 => do
    if ← comesNext [.documentEnd] then
      skip
      documentEnds fuel

/-- The root node of the first document, which may begin without a mark if it has no directives. -/
def firstDocument : Parse (Option (Node String)) := do
  match ← peek with
  | none => return none
  | some (.versionDirective ..) | some (.tagDirective ..) | some .documentStart =>
    let handles ← directives ((← get).length + 1) false []
    unless ← comesNext [.documentStart] do fail (.expected "the start of a document")
    skip
    if ← atEmptyContent then return some .absent
    else return some (← anyNode (handles ++ defaultHandles))
  | _ => return some (← anyNode defaultHandles)

/-- The root node of the only document. -/
def onlyDocument : Parse (Option (Node String)) := do
  let root ← firstDocument
  documentEnds ((← get).length + 1)
  if (← peek).isSome then fail (.misplaced "another document")
  return root

end Parse

namespace Document

/-- The root node of a text with one document in it, or `none` if there is none. -/
def ofText (content : String) : Except Error (Option (Node Nat)) := do
  let tokens ← Token.ofText content
  let (root, _) ← Parse.onlyDocument.run tokens
  root.mapM Node.resolve

end Document

end Yaml

end StreamScalar
