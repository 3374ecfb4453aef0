import StreamScalar.Toml.Number

/-!
# TOML documents

A document is a sequence of lines: entries, headers of tables, headers of elements of arrays of
tables, and blank lines. Its root table is what the lines make of the empty table, in order.

* `Document.ofText` : the root table of a text.
-/

namespace StreamScalar

namespace Toml

/-- The elements of an array and its closing bracket, the opening one being read. Blanks, ends of
lines and comments may stand around elements, and a comma after the last one. -/
def elements (value : Read Item) : (fuel : Nat) → Read (List Item)
  | 0 => Reader.fail (.expected "a closing bracket")
  | fuel + 1 => do
    space
    if ← Reader.optional ']' then return []
    let item ← value
    space
    if ← Reader.optional ',' then return item :: (← elements value fuel)
    Reader.expect "]" (.expected "a comma or a closing bracket")
    return [item]

/-- An entry: a dotted key, an equals sign and a value. -/
def entry (value : Read Item) : Read ((List String × String) × Item) := do
  let key ← dottedKey
  Reader.expect "=" (.expected "an equals sign")
  blanks
  return (key, ← value)

/-- The entries of a table in braces and its closing brace, the opening one being read, put into
the entries before them. They stand on one line, with no comma after the last one. -/
def inlineEntries (value : Read Item) : (fuel : Nat) → Entries → Read Entries
  | 0, _ => Reader.fail (.expected "a closing brace")
  | fuel + 1, before => do
    let ((path, key), item) ← entry value
    let entries ← (Item.addEntry true path key item .explicit before : Except Error Entries)
    blanks
    if ← Reader.optional ',' then inlineEntries value fuel entries
    else
      Reader.expect "\x7d" (.expected "a comma or a closing brace")
      return entries

/-- A value, `inner` reading the values in arrays and tables in braces, if it may hold any. -/
def valueOf (inner : Option (Read Item)) : Read Item := do
  match ← Reader.peek? with
  | some '\x22' => return .scalar (.text (← Quotes.basic.read true))
  | some '\x27' => return .scalar (.text (← Quotes.literal.read true))
  | some '[' =>
    let some inner := inner | Reader.fail .tooDeep
    Reader.skip 1
    return .array (← elements inner ((← get).length + 1))
  | some '\x7b' =>
    let some inner := inner | Reader.fail .tooDeep
    Reader.skip 1
    blanks
    if ← Reader.optional '\x7d' then return .table true .explicit []
    return .table true .explicit (← inlineEntries inner ((← get).length + 1) [])
  | some 't' =>
    Reader.expect "true" (.expected "a value")
    return .scalar (.boolean true)
  | some 'f' =>
    Reader.expect "false" (.expected "a value")
    return .scalar (.boolean false)
  | _ =>
    let rest ← get
    if startsDate rest || startsTime rest then return .scalar (← dateTime)
    else return .scalar (← number)

/-- A value in which arrays and tables in braces are nested at most `depth` levels deep. -/
def value : (depth : Nat) → Read Item
  | 0 => valueOf none
  | depth + 1 => valueOf (some (value depth))

inductive Line where
  | entry (path : List String) (key : String) (item : Item)
  | table (path : List String)
  | element (path : List String)

/-- The path in a header and its closing brackets. -/
def header (opening closing : String) : Read (List String) := do
  Reader.expect opening (.expected opening)
  let (path, key) ← dottedKey
  Reader.expect closing (.expected closing)
  return path ++ [key]

/-- The lines of a document that are not blank. -/
def lines : (fuel : Nat) → Read (List Line)
  | 0 => return []
  | fuel + 1 => do
    blanks
    match ← Reader.peek? with
    | none => return []
    | some '#' | some '\n' | some '\r' =>
      lineEnd
      lines fuel
    | some '[' =>
      let line ← if ← Reader.looksAt "[[" then Line.element <$> header "[[" "]]"
        else Line.table <$> header "[" "]"
      lineEnd
      return line :: (← lines fuel)
    | some _ =>
      let ((path, key), item) ← entry (value (depthLimit - 1))
      lineEnd
      return .entry path key item :: (← lines fuel)

/-- Adds a line to the root table, `current` being the path of the header above it. -/
def addLine (current : List String) (root : Entries) : Line → Except Error (List String × Entries)
  | .entry path key item => do
    let root ← Item.edit false false (Item.addEntry false path key item) current .explicit root
    return (current, root)
  | .table path => do return (path, ← Item.openTable path root)
  | .element path => do return (path, ← Item.openElement path root)

namespace Document

/-- The root table that lines make. -/
def ofLines (lines : List Line) : Except Error Entries := do
  let (_, root) ← lines.foldlM (fun (current, root) line => addLine current root line) ([], [])
  return root

/-- The root table of a text; a byte order mark in front is passed over. -/
def ofText (content : String) : Except Error Entries := do
  let chars := content.toList
  let chars := if chars.head? = some '\uFEFF' then chars.drop 1 else chars
  let (lines, _) ← (lines (chars.length + 1)).run chars
  ofLines lines

end Document

end Toml

end StreamScalar
