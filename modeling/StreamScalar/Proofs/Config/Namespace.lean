import StreamScalar.Config.Loading
import StreamScalar.Proofs.Config.File
import StreamScalar.Proofs.Text.WhiteSpace

/-!
# Namespaces of loaded configurations

A qualified name is a namespace, a colon and the name of a function, which may hold colons itself. It
can be taken apart at its first colon because no loaded configuration has a namespace with a colon,
although what is looked at is the trimmed namespace and what is joined is the whole: trimming takes
no colon away (`validate_of_not_isNamespace`).

* `qualify_of_load` : for every reader and for configurations from texts and files, what is loaded
  and what is refused.
-/

namespace StreamScalar

/-- There is a character other than white space in the text, and no colon. -/
def IsNamespace (ns : String) : Prop :=
  ':' ∉ ns.toList ∧ ∃ c ∈ ns.toList, Text.isWhiteSpace c = false

theorem not_isNamespace_iff {ns : String} :
    ¬ IsNamespace ns ↔ (∀ c ∈ ns.toList, Text.isWhiteSpace c = true) ∨ ':' ∈ ns.toList := by
  unfold IsNamespace
  rw [not_and_or, not_not, or_comm]
  apply or_congr_left
  simp only [not_exists, not_and, Bool.not_eq_false]

namespace ExtensionConfig

/-! ## Qualified names -/

/-- A text in front of its first colon and behind it. -/
def splitQualified (qualifiedName : String) : String × String :=
  let cs := qualifiedName.toList
  (String.ofList (cs.takeWhile (· ≠ ':')), String.ofList ((cs.dropWhile (· ≠ ':')).drop 1))

theorem splitQualified_qualify {config : ExtensionConfig} (h : ':' ∉ config.ns.toList)
    (function : String) : splitQualified (config.qualify function) = (config.ns, function) := by
  have hchars : (config.qualify function).toList =
      config.ns.toList ++ ':' :: function.toList := by simp [qualify]
  have hns : ∀ c ∈ config.ns.toList, decide (c ≠ ':') = true := by
    intro c hc
    rw [decide_eq_true_eq]
    rintro rfl
    exact h hc
  unfold splitQualified
  simp only [hchars]
  rw [List.takeWhile_append_of_pos hns, List.dropWhile_append_of_pos hns,
    List.takeWhile_cons_of_neg (by decide), List.dropWhile_cons_of_neg (by decide),
    List.append_nil, List.drop_one, List.tail_cons, String.ofList_toList, String.ofList_toList]

theorem qualify_eq_qualify_iff {a b : ExtensionConfig} (ha : ':' ∉ a.ns.toList)
    (hb : ':' ∉ b.ns.toList) {f g : String} :
    a.qualify f = b.qualify g ↔ a.ns = b.ns ∧ f = g := by
  constructor
  · intro hsame
    have hsplit := congrArg splitQualified hsame
    rw [splitQualified_qualify ha, splitQualified_qualify hb] at hsplit
    exact Prod.mk.inj hsplit
  · rintro ⟨hns, rfl⟩
    rw [qualify, qualify, hns]

/-! ## Validation -/

theorem isEmpty_or_contains_trim_iff (ns : String) :
    ((Text.trim ns).isEmpty || (Text.trim ns).contains ':') = true ↔ ¬ IsNamespace ns := by
  rw [not_isNamespace_iff, Bool.or_eq_true, String.isEmpty_iff, Text.trim_eq_empty_iff,
    String.contains_char_eq, decide_eq_true_eq, Text.mem_trim_iff (by decide)]

theorem validate_of_isNamespace {config : ExtensionConfig} (h : IsNamespace config.ns) :
    config.validate = .ok config := by
  unfold validate
  rw [if_neg]
  rwa [isEmpty_or_contains_trim_iff, not_not]

theorem validate_of_not_isNamespace {config : ExtensionConfig} (h : ¬ IsNamespace config.ns) :
    config.validate = .error (.invalidNamespace config.ns) := by
  unfold validate
  rw [if_pos]
  rwa [isEmpty_or_contains_trim_iff]

end ExtensionConfig

/-! ## Texts and files -/

/-- The key of the configuration that is at fault, where there is one. -/
def Error.key? : Error → Option String
  | configuration cause => cause.key?
  | _ => none

/-- The format of the files with an extension. -/
def ConfigFormat.ofExtension? (extension : String) : Option ConfigFormat :=
  if extension = "toml" then some toml
  else if extension = "yaml" ∨ extension = "yml" then some yaml
  else none

/-- Where a configuration is loaded from. -/
inductive ConfigSource where
  | text (format : ConfigFormat) (content : String)
  | file (name : String) (state : FileState)

namespace ConfigReader

open ExtensionConfig

section Sources

variable (reader : ConfigReader)

/-- The configuration that the entries in a text make, whatever its namespace is. -/
def parseText? (format : ConfigFormat) (content : String) : Option ExtensionConfig :=
  (reader.read format content).toOption.map ConfigEntries.toConfig

/-- The configuration at a source, whatever its namespace is, if there is a text that can be read in
a format that is known. -/
def parse? : ConfigSource → Option ExtensionConfig
  | .text format content => reader.parseText? format content
  | .file name state => do
    let content ← state.read.toOption
    let format ← (fileExtension? name).bind ConfigFormat.ofExtension?
    reader.parseText? format content

def load : ConfigSource → Except Error ExtensionConfig
  | .text format content => (reader.ofText format content).mapError .configuration
  | .file name state => reader.ofFile name state

theorem parse?_file_encode (name content : String) :
    reader.parse? (.file name (.file (Utf8.encode content))) =
      ((fileExtension? name).bind ConfigFormat.ofExtension?).bind fun format =>
        reader.parseText? format content := by
  unfold parse?
  dsimp only
  rw [read_file_encode]
  rfl

theorem load_text_of_read {format : ConfigFormat} {content : String} {entries : ConfigEntries}
    (h : reader.read format content = .ok entries) :
    reader.load (.text format content) = entries.toConfig.validate.mapError .configuration := by
  have htext : reader.ofText format content = entries.toConfig.validate := by
    rw [ofText, h, Except.mapError]
    exact pure_bind entries _
  rw [load, htext]

theorem load_text_cases (format : ConfigFormat) (content : String) :
    (∃ config, reader.parseText? format content = some config ∧
        reader.load (.text format content) = config.validate.mapError .configuration) ∨
      reader.parseText? format content = none ∧
        ∃ e : Error, reader.load (.text format content) = .error e ∧ e.key? = none := by
  cases hread : reader.read format content with
  | ok entries =>
    refine Or.inl ⟨entries.toConfig, ?_, reader.load_text_of_read hread⟩
    rw [parseText?, hread]
    rfl
  | error detail =>
    refine Or.inr ⟨?_, .configuration (format.malformed detail), ?_, ?_⟩
    · rw [parseText?, hread]
      rfl
    · rw [load, ofText, hread]
      rfl
    · cases format <;> rfl

theorem load_cases (source : ConfigSource) :
    (∃ config, reader.parse? source = some config ∧
        reader.load source = config.validate.mapError .configuration) ∨
      reader.parse? source = none ∧ ∃ e : Error, reader.load source = .error e ∧ e.key? = none := by
  cases source with
  | text format content => exact reader.load_text_cases format content
  | file name state =>
    obtain ⟨answer, hanswer⟩ := exists_fileAnswer reader name state
    have hload : reader.load (.file name state) = answer := ofFile_of_fileAnswer hanswer
    rw [hload]
    cases hanswer with
    | missing => exact Or.inr ⟨rfl, _, rfl, rfl⟩
    | directory => exact Or.inr ⟨rfl, _, rfl, rfl⟩
    | @notUtf8 octets hnone =>
      refine Or.inr ⟨?_, _, rfl, rfl⟩
      rcases read_file_cases octets with ⟨content, rfl⟩ | ⟨-, hread⟩
      · exact absurd rfl (hnone content)
      · unfold parse?
        dsimp only
        rw [hread]
        rfl
    | @toml content hname =>
      rw [parse?_file_encode, fileExtension?_of_hasExtension hname]
      exact reader.load_text_cases .toml content
    | @yaml content hname =>
      have hformat : (fileExtension? name).bind ConfigFormat.ofExtension? = some .yaml := by
        rcases hname with hname | hname
        · rw [fileExtension?_of_hasExtension hname]
          rfl
        · rw [fileExtension?_of_hasExtension hname]
          rfl
      rw [parse?_file_encode, hformat]
      exact reader.load_text_cases .yaml content
    | unknown hname htoml hyaml hyml =>
      refine Or.inr ⟨?_, _, rfl, rfl⟩
      rw [parse?_file_encode, fileExtension?_of_hasExtension hname, Option.bind_some,
        ConfigFormat.ofExtension?, if_neg htoml, if_neg (not_or.mpr ⟨hyaml, hyml⟩),
        Option.bind_none]
    | none hname =>
      refine Or.inr ⟨?_, _, rfl, rfl⟩
      rw [parse?_file_encode, fileExtension?_of_hasNoExtension hname]
      rfl

end Sources

/-- A source gives the configuration that is read from it if it has a namespace, and blames the
namespace exactly if it has none. -/
structure Screened (reader : ConfigReader) (source : ConfigSource) : Prop where
  accepted_iff : ∀ config, reader.load source = .ok config ↔ reader.parse? source = some config ∧
    ':' ∉ config.ns.toList ∧ ∃ c ∈ config.ns.toList, Text.isWhiteSpace c = false
  refused : ∀ config, reader.parse? source = some config →
    (∀ c ∈ config.ns.toList, Text.isWhiteSpace c = true) ∨ ':' ∈ config.ns.toList →
      ∃ e, reader.load source = .error (.configuration e) ∧ e.key? = some "namespace"
  blamed : ∀ e, reader.load source = .error e → e.key? ≠ none →
    ∃ config, reader.parse? source = some config ∧
      ((∀ c ∈ config.ns.toList, Text.isWhiteSpace c = true) ∨ ':' ∈ config.ns.toList)

section Screened

variable {reader : ConfigReader} {source : ConfigSource} {config : ExtensionConfig}

theorem screened_of_isNamespace (hparse : reader.parse? source = some config)
    (hload : reader.load source = .ok config) (hns : IsNamespace config.ns) :
    reader.Screened source where
  accepted_iff other := by
    rw [hload, hparse, Except.ok.injEq, Option.some.injEq]
    constructor
    · rintro rfl
      exact ⟨rfl, hns⟩
    · exact And.left
  refused other hother hinvalid := by
    rw [hparse, Option.some.injEq] at hother
    exact absurd hns (not_isNamespace_iff.mpr (hother ▸ hinvalid))
  blamed e he := by
    rw [hload] at he
    cases he

theorem screened_of_not_isNamespace (hparse : reader.parse? source = some config)
    (hload : reader.load source = .error (.configuration (.invalidNamespace config.ns)))
    (hns : ¬ IsNamespace config.ns) : reader.Screened source where
  accepted_iff other := by
    rw [hload, hparse, Option.some.injEq]
    constructor
    · intro h
      cases h
    · rintro ⟨rfl, hother⟩
      exact absurd hother hns
  refused _ _ _ := ⟨_, hload, rfl⟩
  blamed _ _ _ := ⟨config, hparse, not_isNamespace_iff.mp hns⟩

theorem screened_of_parse?_eq_none {e : Error} (hparse : reader.parse? source = none)
    (hload : reader.load source = .error e) (hkey : e.key? = none) : reader.Screened source where
  accepted_iff other := by
    rw [hload, hparse]
    constructor
    · intro h
      cases h
    · rintro ⟨h, -⟩
      cases h
  refused other hother := by
    rw [hparse] at hother
    cases hother
  blamed e' he' hkey' := by
    rw [hload, Except.error.injEq] at he'
    exact absurd (he' ▸ hkey) hkey'

theorem screened (reader : ConfigReader) (source : ConfigSource) : reader.Screened source := by
  rcases reader.load_cases source with ⟨config, hparse, hload⟩ | ⟨hparse, e, hload, hkey⟩
  · by_cases hns : IsNamespace config.ns
    · rw [validate_of_isNamespace hns] at hload
      exact screened_of_isNamespace hparse hload hns
    · rw [validate_of_not_isNamespace hns] at hload
      exact screened_of_not_isNamespace hparse hload hns
  · exact screened_of_parse?_eq_none hparse hload hkey

end Screened

/-- **Loaded configurations have qualified names that are told apart.** However texts are read, what
a text or a file gives has a namespace without a colon, so that a qualified name is taken apart at
its first colon and two are equal in both parts or not at all. A namespace that is blank or holds a
colon is refused under its key, and nothing else is. -/
theorem qualify_of_load (reader : ConfigReader) (source other : ConfigSource) :
    reader.Screened source ∧
      (∀ config, reader.load source = .ok config → ∀ function,
        splitQualified (config.qualify function) = (config.ns, function)) ∧
      ∀ config config', reader.load source = .ok config → reader.load other = .ok config' →
        ∀ f g, config.qualify f = config'.qualify g ↔ config.ns = config'.ns ∧ f = g := by
  have hcolon : ∀ {source config}, reader.load source = .ok config → ':' ∉ config.ns.toList := by
    intro source config hload
    obtain ⟨-, hfree, -⟩ := ((reader.screened source).accepted_iff config).mp hload
    exact hfree
  refine ⟨reader.screened source, ?_, ?_⟩
  · intro config hload function
    exact splitQualified_qualify (hcolon hload) function
  · intro config config' hload hload' f g
    exact qualify_eq_qualify_iff (hcolon hload) (hcolon hload')

/-- Namespaces that trimming would make one are kept apart, behind a function whose name has a colon,
and a namespace that is nothing but a colon is refused. -/
theorem qualify_of_load_untrimmed :
    let source : ConfigSource := .text .toml "namespace = \" m\""
    let other : ConfigSource := .file "app.yml" (.file (Utf8.encode "namespace: m"))
    standard.load source = .ok { ns := " m" } ∧ standard.load other = .ok { ns := "m" } ∧
      splitQualified (qualify { ns := " m" } "f:g") = (" m", "f:g") ∧
      qualify { ns := " m" } "f:g" ≠ qualify { ns := "m" } "f:g" ∧
      ∃ e, standard.load (.text .yaml "namespace: ' : '") = .error (.configuration e) ∧
        e.key? = some "namespace" := by
  intro source other
  obtain ⟨hsource, hsplit, hsame⟩ := qualify_of_load standard source other
  obtain ⟨hother, -, -⟩ := qualify_of_load standard other source
  obtain ⟨hcolon, -, -⟩ := qualify_of_load standard (.text .yaml "namespace: ' : '") source
  have hload : standard.load source = .ok { ns := " m" } :=
    (hsource.accepted_iff _).mpr ⟨by decide +kernel, by decide, 'm', by decide, by decide⟩
  have hload' : standard.load other = .ok { ns := "m" } :=
    (hother.accepted_iff _).mpr ⟨by decide +kernel, by decide, 'm', by decide, by decide⟩
  refine ⟨hload, hload', hsplit _ hload "f:g", ?_, ?_⟩
  · rw [Ne, hsame _ _ hload hload']
    decide
  · exact hcolon.refused { ns := " : " } (by decide +kernel) (Or.inr (by decide))

end ConfigReader

end StreamScalar
