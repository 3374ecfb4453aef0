import StreamScalar.Decimal.Nearest

/-!
# TOML items

What a TOML document holds, and how its tables grow: entries are added under dotted keys and
headers, and no table is defined twice.

* `Item.addEntry` : adds one entry under a dotted key.
* `Item.openTable`, `Item.openElement` : what the two kinds of header do.
-/

namespace StreamScalar

namespace Toml

inductive Error where
  | expected (what : String)
  | duplicateKey (key : String)
  | notATable (key : String)
  | tooDeep
  | outOfRange (what : String)
  deriving DecidableEq, Repr

def Error.message : Error → String
  | expected what => s!"expected {what}"
  | duplicateKey key => s!"duplicate key '{key}'"
  | notATable key => s!"key '{key}' is no table"
  | tooDeep => "nested too deeply"
  | outOfRange what => s!"{what} is out of range"

/-- A value that holds no other values. -/
inductive Scalar where
  | text (s : String)
  | integer (n : Int)
  | float (x : Binary64)
  | boolean (b : Bool)
  /-- A date, a time or both, as it is written. -/
  | dateTime (written : String)
  deriving DecidableEq

/-- How a table came to be. -/
inductive Origin where
  | explicit
  | header
  | dottedKey
  deriving DecidableEq, Repr

inductive Item where
  | scalar (s : Scalar)
  | array (items : List Item)
  /-- A table; one in braces is `inline` and closed to headers and to the keys outside it. -/
  | table (inline : Bool) (origin : Origin) (entries : List (String × Item))
  /-- The elements of an array of tables, which headers append. -/
  | tables (elements : List (List (String × Item)))

abbrev Entries := List (String × Item)

namespace Item

/-- The entries with an item under a key, in the place of the old one if there is one. -/
def put (key : String) (item : Item) : Entries → Entries
  | [] => [(key, item)]
  | (k, old) :: rest => if k = key then (key, item) :: rest else (k, old) :: put key item rest

/-- Changes the table at the end of a path of keys. Tables that are missing on the way are made; in
an array of tables the way goes through its last element. A dotted key must not go through a table
that has its own header or braces. -/
def edit (inline dotted : Bool) (change : Origin → Entries → Except Error Entries) :
    (path : List String) → Origin → Entries → Except Error Entries
  | [], origin, entries => change origin entries
  | key :: rest, _, entries =>
    match entries.lookup key with
    | none => do
      let origin := if dotted then .dottedKey else .header
      let made ← edit inline dotted change rest origin []
      return put key (.table inline origin made) entries
    | some (.table braced origin inner) =>
      if braced != inline then .error (.notATable key)
      else if dotted && origin == .explicit then .error (.duplicateKey key)
      else do
        let changed ← edit inline dotted change rest origin inner
        return put key (.table inline origin changed) entries
    | some (.tables elements) => do
      let changed ← edit inline dotted change rest .explicit (elements.getLastD [])
      return put key (.tables (elements.dropLast ++ [changed])) entries
    | some (.scalar _) | some (.array _) => .error (.notATable key)

/-- Adds an entry under a dotted key, given as the keys before the last one and the last one. A
table that dotted keys made takes entries by dotted keys only, and any other table takes none by
them. -/
def addEntry (inline : Bool) (path : List String) (key : String) (item : Item)
    (origin : Origin) (entries : Entries) : Except Error Entries :=
  edit inline true
    (fun origin entries =>
      if (origin == .dottedKey) == path.isEmpty || (entries.lookup key).isSome then
        .error (.duplicateKey key)
      else .ok (put key item entries))
    path origin entries

/-- Opens the table that a header names: a new one, or one that so far only headers of tables
inside it have made. -/
def openTable (path : List String) (entries : Entries) : Except Error Entries :=
  let key := path.getLastD ""
  edit false false
    (fun _ entries =>
      match entries.lookup key with
      | none => .ok (put key (.table false .explicit []) entries)
      | some (.table false .header inner) => .ok (put key (.table false .explicit inner) entries)
      | some _ => .error (.duplicateKey key))
    path.dropLast .explicit entries

/-- Opens a new element of the array of tables that a header names. -/
def openElement (path : List String) (entries : Entries) : Except Error Entries :=
  let key := path.getLastD ""
  edit false false
    (fun _ entries =>
      match entries.lookup key with
      | none => .ok (put key (.tables [[]]) entries)
      | some (.tables elements) => .ok (put key (.tables (elements ++ [[]])) entries)
      | some _ => .error (.duplicateKey key))
    path.dropLast .explicit entries

end Item

end Toml

end StreamScalar
