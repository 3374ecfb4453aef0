import StreamScalar.Config.Reading
import StreamScalar.Toml.Document
import StreamScalar.Yaml.Document

/-!
# Loading configurations

The reader that configurations are loaded with takes their entries from the root table of a TOML
document or from the root mapping of a YAML document. Other entries mean nothing.

* `ConfigReader.standard` : the reader.
-/

namespace StreamScalar

namespace ConfigReader

/-! ## TOML -/

def tomlText : Toml.Item → Except Toml.Error String
  | .scalar (.text s) => .ok s
  | _ => .error (.expected "a text")

def tomlTexts : Toml.Item → Except Toml.Error (List String)
  | .array items => items.mapM tomlText
  | _ => .error (.expected "an array of texts")

def ofTomlTable (root : Toml.Entries) : Except Toml.Error ConfigEntries := do
  let ns ← (root.lookup "namespace").mapM tomlText
  let disabled ← (root.lookup "disabled_functions").mapM tomlTexts
  return { ns, disabled }

/-! ## YAML -/

/-- The text that a YAML node is, whatever it looks like. -/
def yamlText (root node : Yaml.Node Nat) : Except Yaml.Error String :=
  match root.follow node with
  | .scalar _ _ text => .ok text
  | _ => .error (.expected "a text")

/-- Whether nothing is written in the place of a node. -/
def isUnwritten : Yaml.Node Nat → Bool
  | .scalar _ plain text => plain && text.isEmpty
  | _ => false

/-- The texts that a YAML sequence holds; where nothing is written there are none. -/
def yamlTexts (root node : Yaml.Node Nat) : Except Yaml.Error (List String) :=
  match root.follow node with
  | .sequence _ items => items.mapM (yamlText root)
  | other => if isUnwritten other then .ok [] else .error (.expected "a sequence of texts")

/-- Takes one entry of a YAML mapping. A key that means something comes once; others are passed
over. -/
def takeYamlEntry (root : Yaml.Node Nat) (found : ConfigEntries)
    (entry : Yaml.Node Nat × Yaml.Node Nat) : Except Yaml.Error ConfigEntries := do
  match ← yamlText root entry.1 with
  | "namespace" =>
    if found.ns.isSome then throw (.duplicate "namespace")
    return { found with ns := some (← yamlText root entry.2) }
  | "disabled_functions" =>
    if found.disabled.isSome then throw (.duplicate "disabled_functions")
    return { found with disabled := some (← yamlTexts root entry.2) }
  | _ => return found

def ofYamlNode (root : Yaml.Node Nat) : Except Yaml.Error ConfigEntries := do
  match root with
  | .mapping _ entries => entries.foldlM (takeYamlEntry root) {}
  | other => if isUnwritten other then return {} else throw (.expected "a mapping")

/-- Reads TOML and YAML. A YAML text without a document has no entries. -/
def standard : ConfigReader where
  toml content := (Toml.Document.ofText content >>= ofTomlTable).mapError Toml.Error.message
  yaml content :=
    (Yaml.Document.ofText content >>= fun root => root.elim (.ok {}) ofYamlNode).mapError
      Yaml.Error.message

end ConfigReader

namespace ExtensionConfig

def ofToml : String → Except ConfigurationError ExtensionConfig :=
  ConfigReader.standard.ofToml

def ofYaml : String → Except ConfigurationError ExtensionConfig :=
  ConfigReader.standard.ofYaml

def ofFile : String → FileState → Except Error ExtensionConfig :=
  ConfigReader.standard.ofFile

end ExtensionConfig

end StreamScalar
