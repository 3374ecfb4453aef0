import StreamScalar.Yaml.Token

/-!
# YAML nodes

The structure of a document: texts, sequences and mappings, any of which may bear an anchor, and
aliases that stand for anchored nodes. `κ` is what anchors and aliases are known by.

* `Node.resolve` : anchors by number instead of by name.
* `Node.target?` : what an alias stands for.
-/

namespace StreamScalar

namespace Yaml

inductive Node (κ : Type) where
  | aliasOf (target : κ)
  /-- A text, and whether it is plain. -/
  | scalar (anchor : Option κ) (plain : Bool) (text : String)
  | sequence (anchor : Option κ) (items : List (Node κ))
  | mapping (anchor : Option κ) (entries : List (Node κ × Node κ))

namespace Node

/-- The node in a place where nothing is written. -/
def absent {κ : Type} : Node κ := .scalar none true ""

def anchor? {κ : Type} : Node κ → Option κ
  | aliasOf _ => none
  | scalar anchor .. | sequence anchor _ | mapping anchor _ => anchor

/-- The numbers of the anchor names seen so far. -/
abbrev Names := List (String × Nat)

/-- The number of an anchor: how many other names there are before it. A name that comes again takes
a new number, and the old one goes with its old place. -/
def nameAnchor (names : Names) : Option String → Option Nat × Names
  | none => (none, names)
  | some name => (some names.length, (name, names.length) :: names.filter (·.1 ≠ name))

mutual

/-- The node with anchors and aliases by number. An alias has the number that its name has at its
place. -/
def resolveFrom (names : Names) : Node String → Except Error (Node Nat × Names)
  | .aliasOf name =>
    match names.lookup name with
    | some n => .ok (.aliasOf n, names)
    | none => .error (.undefinedAlias name)
  | .scalar anchor plain text =>
    let (anchor, names) := nameAnchor names anchor
    .ok (.scalar anchor plain text, names)
  | .sequence anchor items => do
    let (anchor, names) := nameAnchor names anchor
    let (items, names) ← resolveItems names items
    return (.sequence anchor items, names)
  | .mapping anchor entries => do
    let (anchor, names) := nameAnchor names anchor
    let (entries, names) ← resolveEntries names entries
    return (.mapping anchor entries, names)

/-- The items of a sequence with anchors and aliases by number. -/
def resolveItems (names : Names) : List (Node String) → Except Error (List (Node Nat) × Names)
  | [] => .ok ([], names)
  | item :: rest => do
    let (item, names) ← resolveFrom names item
    let (rest, names) ← resolveItems names rest
    return (item :: rest, names)

/-- The entries of a mapping with anchors and aliases by number. -/
def resolveEntries (names : Names) :
    List (Node String × Node String) → Except Error (List (Node Nat × Node Nat) × Names)
  | [] => .ok ([], names)
  | (key, value) :: rest => do
    let (key, names) ← resolveFrom names key
    let (value, names) ← resolveFrom names value
    let (rest, names) ← resolveEntries names rest
    return ((key, value) :: rest, names)

end

/-- The root node of a document with anchors and aliases by number. -/
def resolve (root : Node String) : Except Error (Node Nat) :=
  (resolveFrom [] root).map (·.1)

mutual

/-- A node and all nodes in it, in the order in which they begin. -/
def withDescendants {κ : Type} : Node κ → List (Node κ)
  | .aliasOf target => [.aliasOf target]
  | .scalar anchor plain text => [.scalar anchor plain text]
  | .sequence anchor items => .sequence anchor items :: itemDescendants items
  | .mapping anchor entries => .mapping anchor entries :: entryDescendants entries

def itemDescendants {κ : Type} : List (Node κ) → List (Node κ)
  | [] => []
  | item :: rest => withDescendants item ++ itemDescendants rest

def entryDescendants {κ : Type} : List (Node κ × Node κ) → List (Node κ)
  | [] => []
  | (key, value) :: rest =>
    withDescendants key ++ withDescendants value ++ entryDescendants rest

end

/-- The node that an alias stands for: the last one in the document that bears its number. -/
def target? (root : Node Nat) (number : Nat) : Option (Node Nat) :=
  root.withDescendants.reverse.find? (·.anchor? == some number)

/-- A node, or the node that it stands for if it is an alias. -/
def follow (root : Node Nat) : Node Nat → Node Nat
  | .aliasOf number => (root.target? number).getD (.aliasOf number)
  | node => node

end Node

end Yaml

end StreamScalar
