import StreamScalar.Config.Basic
import StreamScalar.Text.Utf8

/-!
# Reading configurations

A configuration is written in one of two formats, in a text of its own or in a file whose name says
which. How the entries of a configuration are read from a text is left open: a `ConfigReader` says
it. What is read is completed by the defaults and validated.

* `ConfigReader.ofToml`, `ConfigReader.ofYaml` : the configuration in a text.
* `ConfigReader.ofFile` : the configuration in a file.
-/

namespace StreamScalar

inductive ConfigFormat where
  | toml
  | yaml
  deriving DecidableEq, Repr

/-- The entries of a configuration that a text holds; any may be missing. -/
structure ConfigEntries where
  ns : Option String := none
  disabled : Option (List String) := none
  deriving DecidableEq

/-- The configuration with these entries and the default of every other. -/
def ConfigEntries.toConfig (entries : ConfigEntries) : ExtensionConfig :=
  let default : ExtensionConfig := {}
  { ns := entries.ns.getD default.ns, disabled := entries.disabled.getD default.disabled }

/-- How texts are read. Of each it gives the entries, or else the reason why there are none. -/
structure ConfigReader where
  toml : String → Except String ConfigEntries
  yaml : String → Except String ConfigEntries

/-- What is found under the name of a file. -/
inductive FileState where
  | missing
  | directory
  | file (bytes : List UInt8)

def FileState.read : FileState → Except FileError String
  | missing => .error .missing
  | directory => .error .directory
  | file bytes => (Utf8.decode bytes).mapError fun _ => .notUtf8

/-- What follows the last dot of a file name; a name without a dot, or with its only dot in front,
has no extension. -/
def fileExtension? (name : String) : Option String :=
  let reversed := name.toList.reverse
  let extension := reversed.takeWhile (· ≠ '.')
  match reversed.drop (extension.length + 1) with
  | [] => none
  | _ :: _ => some (String.ofList extension.reverse)

def ConfigFormat.malformed : ConfigFormat → String → ConfigurationError
  | toml => .malformedToml
  | yaml => .malformedYaml

namespace ConfigReader

variable (reader : ConfigReader)

def read : ConfigFormat → String → Except String ConfigEntries
  | .toml => reader.toml
  | .yaml => reader.yaml

/-- The configuration in a text of a format. Both formats are loaded alike. -/
def ofText (format : ConfigFormat) (content : String) :
    Except ConfigurationError ExtensionConfig := do
  let entries ← (reader.read format content).mapError format.malformed
  entries.toConfig.validate

def ofToml : String → Except ConfigurationError ExtensionConfig :=
  reader.ofText .toml

def ofYaml : String → Except ConfigurationError ExtensionConfig :=
  reader.ofText .yaml

/-- The configuration in a file. The file is read before its name is looked at, and the extension of
the name says which format the text is in. -/
def ofFile (name : String) (state : FileState) : Except Error ExtensionConfig := do
  let content ← state.read.mapError Error.file
  match fileExtension? name with
  | some "toml" => (reader.ofToml content).mapError .configuration
  | some "yaml" | some "yml" => (reader.ofYaml content).mapError .configuration
  | other => .error (.configuration (.unsupportedExtension other))

end ConfigReader

end StreamScalar
