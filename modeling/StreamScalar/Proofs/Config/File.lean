import StreamScalar.Config.Reading
import StreamScalar.Proofs.Text.Utf8

/-!
# Configurations in files

What is loaded from a file depends on what is found under its name, then on the extension of the
name, and last on the text. `HasExtension` and `HasNoExtension` read a name from its front, where
`fileExtension?` takes it from its end (`fileExtension?_eq_some_iff`, `fileExtension?_eq_none_iff`).

* `ofFile_eq_iff` : the answer for every reader, every name and every state of the file.
-/

namespace StreamScalar

/-! ## Extensions of names -/

/-- The name is a stem, a dot and the extension. The stem may hold more dots, but not be empty. -/
def HasExtension (name extension : String) : Prop :=
  ∃ stem, stem ≠ "" ∧ name = stem ++ "." ++ extension ∧ '.' ∉ extension.toList

/-- There is no dot in the name, or its only dot is in front. -/
def HasNoExtension (name : String) : Prop :=
  '.' ∉ name.toList ∨ ∃ rest, name = "." ++ rest ∧ '.' ∉ rest.toList

section Extension

variable {name extension : String}

theorem takeWhile_reverse_append {after : List Char} (h : '.' ∉ after) (rest : List Char) :
    (after.reverse ++ rest).takeWhile (· ≠ '.') = after.reverse ++ rest.takeWhile (· ≠ '.') := by
  apply List.takeWhile_append_of_pos
  intro c hc
  rw [decide_eq_true_eq]
  rintro rfl
  exact h (List.mem_reverse.mp hc)

/-- Of a name that goes on behind a dot, and not behind another, the extension is what follows, unless
nothing stands before the dot. -/
theorem fileExtension?_of_toList {before after : List Char} (h : '.' ∉ after)
    (hname : name.toList = before ++ '.' :: after) :
    fileExtension? name = if before = [] then none else some (String.ofList after) := by
  have hreverse : name.toList.reverse = after.reverse ++ '.' :: before.reverse := by
    rw [hname, List.reverse_append, List.reverse_cons, List.append_assoc, List.singleton_append]
  have htaken : (after.reverse ++ '.' :: before.reverse).takeWhile (· ≠ '.') = after.reverse := by
    rw [takeWhile_reverse_append h, List.takeWhile_cons_of_neg (by decide), List.append_nil]
  have hleft : (after.reverse ++ '.' :: before.reverse).drop (after.reverse.length + 1) =
      before.reverse := by
    rw [← List.drop_drop, List.drop_left]
    rfl
  unfold fileExtension?
  rw [hreverse]
  simp only [htaken, hleft, List.reverse_reverse]
  cases hbefore : before.reverse with
  | nil => rw [if_pos (List.reverse_eq_nil_iff.mp hbefore)]
  | cons c cs =>
    rw [if_neg]
    rintro rfl
    cases hbefore

theorem fileExtension?_of_hasExtension (h : HasExtension name extension) :
    fileExtension? name = some extension := by
  obtain ⟨stem, hstem, rfl, hextension⟩ := h
  have hname : (stem ++ "." ++ extension).toList = stem.toList ++ '.' :: extension.toList := by simp
  rw [fileExtension?_of_toList hextension hname, if_neg, String.ofList_toList]
  rwa [String.toList_eq_nil_iff]

theorem fileExtension?_of_hasNoExtension (h : HasNoExtension name) : fileExtension? name = none := by
  rcases h with hnone | ⟨rest, rfl, hrest⟩
  · -- without a dot everything is taken
    have htaken := takeWhile_reverse_append hnone []
    rw [List.append_nil, List.takeWhile_nil, List.append_nil] at htaken
    unfold fileExtension?
    simp only [htaken, List.drop_eq_nil_of_le (Nat.le_succ _)]
  · have hname : ("." ++ rest).toList = [] ++ '.' :: rest.toList := by simp
    rw [fileExtension?_of_toList hrest hname, if_pos rfl]

theorem hasNoExtension_or_hasExtension (name : String) :
    HasNoExtension name ∨ ∃ extension, HasExtension name extension := by
  by_cases hdot : '.' ∈ name.toList
  · obtain ⟨after, before, hsplit, hafter⟩ :=
      List.eq_append_cons_of_mem (List.mem_reverse.mpr hdot)
    have hname : name.toList = before.reverse ++ '.' :: after.reverse := by
      rw [← List.reverse_reverse name.toList, hsplit]
      simp
    have hafter' : '.' ∉ (String.ofList after.reverse).toList := by
      rwa [String.toList_ofList, List.mem_reverse]
    by_cases hbefore : before = []
    · refine Or.inl (Or.inr ⟨String.ofList after.reverse, ?_, hafter'⟩)
      rw [← String.toList_inj, hname, hbefore]
      simp
    · refine Or.inr ⟨String.ofList after.reverse, String.ofList before.reverse, ?_, ?_, hafter'⟩
      · simpa [← String.toList_inj] using hbefore
      · rw [← String.toList_inj, hname]
        simp
  · exact Or.inl (Or.inl hdot)

theorem fileExtension?_eq_some_iff :
    fileExtension? name = some extension ↔ HasExtension name extension := by
  constructor
  · intro h
    rcases hasNoExtension_or_hasExtension name with hnone | ⟨other, hother⟩
    · rw [fileExtension?_of_hasNoExtension hnone] at h
      cases h
    · rw [fileExtension?_of_hasExtension hother] at h
      cases h
      exact hother
  · exact fileExtension?_of_hasExtension

theorem fileExtension?_eq_none_iff : fileExtension? name = none ↔ HasNoExtension name := by
  constructor
  · intro h
    rcases hasNoExtension_or_hasExtension name with hnone | ⟨other, hother⟩
    · exact hnone
    · rw [fileExtension?_of_hasExtension hother] at h
      cases h
  · exact fileExtension?_of_hasNoExtension

example :
    ["a.toml", "a.toml.yml", "a.TOML", "a.", "..toml", ".toml", "toml"].map fileExtension? =
      [some "toml", some "yml", some "TOML", some "", some "toml", none, none] := by
  decide

end Extension

/-! ## The text of a file -/

theorem read_file_encode (content : String) :
    (FileState.file (Utf8.encode content)).read = .ok content := by
  rw [FileState.read, Utf8.decode_encode]
  rfl

theorem read_file_cases (octets : List UInt8) :
    (∃ content, octets = Utf8.encode content) ∨
      (∀ content, Utf8.encode content ≠ octets) ∧
        (FileState.file octets).read = .error .notUtf8 := by
  cases hdecoded : Utf8.decode octets with
  | ok content => exact Or.inl ⟨content, Utf8.eq_encode_of_decode hdecoded⟩
  | error fault =>
    refine Or.inr ⟨?_, ?_⟩
    · rintro content rfl
      rw [Utf8.decode_encode] at hdecoded
      cases hdecoded
    · rw [FileState.read, hdecoded]
      rfl

namespace ConfigReader

/-- The answer to a name, by what is found under it and by its extension. -/
inductive FileAnswer (reader : ConfigReader) (name : String) :
    FileState → Except Error ExtensionConfig → Prop
  | missing : FileAnswer reader name .missing (.error (.file .missing))
  | directory : FileAnswer reader name .directory (.error (.file .directory))
  | notUtf8 {octets : List UInt8} : (∀ content, Utf8.encode content ≠ octets) →
      FileAnswer reader name (.file octets) (.error (.file .notUtf8))
  | toml {content : String} : HasExtension name "toml" →
      FileAnswer reader name (.file (Utf8.encode content))
        ((reader.ofToml content).mapError .configuration)
  | yaml {content : String} : HasExtension name "yaml" ∨ HasExtension name "yml" →
      FileAnswer reader name (.file (Utf8.encode content))
        ((reader.ofYaml content).mapError .configuration)
  | unknown {content extension : String} : HasExtension name extension →
      extension ≠ "toml" → extension ≠ "yaml" → extension ≠ "yml" →
      FileAnswer reader name (.file (Utf8.encode content))
        (.error (.configuration (.unsupportedExtension (some extension))))
  | none {content : String} : HasNoExtension name →
      FileAnswer reader name (.file (Utf8.encode content))
        (.error (.configuration (.unsupportedExtension none)))

variable {reader : ConfigReader} {name : String} {state : FileState}

theorem ofFile_of_read_error {e : FileError} (h : state.read = .error e) :
    reader.ofFile name state = .error (.file e) := by
  unfold ofFile
  rw [h]
  rfl

theorem ofFile_encode (reader : ConfigReader) (name content : String) :
    reader.ofFile name (.file (Utf8.encode content)) =
      match fileExtension? name with
      | some "toml" => (reader.ofToml content).mapError .configuration
      | some "yaml" | some "yml" => (reader.ofYaml content).mapError .configuration
      | other => .error (.configuration (.unsupportedExtension other)) := by
  unfold ofFile
  rw [read_file_encode]
  rfl

theorem ofFile_of_fileAnswer {answer : Except Error ExtensionConfig}
    (h : FileAnswer reader name state answer) : reader.ofFile name state = answer := by
  cases h with
  | missing => rfl
  | directory => rfl
  | @notUtf8 octets hnone =>
    rcases read_file_cases octets with ⟨content, rfl⟩ | ⟨-, hread⟩
    · exact absurd rfl (hnone content)
    · exact ofFile_of_read_error hread
  | toml hname =>
    rw [ofFile_encode, fileExtension?_of_hasExtension hname]
    rfl
  | yaml hname =>
    rcases hname with hname | hname
    · rw [ofFile_encode, fileExtension?_of_hasExtension hname]
      rfl
    · rw [ofFile_encode, fileExtension?_of_hasExtension hname]
      rfl
  | unknown hname htoml hyaml hyml =>
    rw [ofFile_encode, fileExtension?_of_hasExtension hname]
    split
    · next heq => exact absurd (Option.some.inj heq) htoml
    · next heq => exact absurd (Option.some.inj heq) hyaml
    · next heq => exact absurd (Option.some.inj heq) hyml
    · rfl
  | none hname => rw [ofFile_encode, fileExtension?_of_hasNoExtension hname]

theorem exists_fileAnswer (reader : ConfigReader) (name : String) (state : FileState) :
    ∃ answer, FileAnswer reader name state answer := by
  cases state with
  | missing => exact ⟨_, .missing⟩
  | directory => exact ⟨_, .directory⟩
  | file octets =>
    rcases read_file_cases octets with ⟨content, rfl⟩ | ⟨hnone, -⟩
    · rcases hasNoExtension_or_hasExtension name with hname | ⟨extension, hname⟩
      · exact ⟨_, .none hname⟩
      · by_cases htoml : extension = "toml"
        · exact ⟨_, .toml (htoml ▸ hname)⟩
        by_cases hyaml : extension = "yaml"
        · exact ⟨_, .yaml (Or.inl (hyaml ▸ hname))⟩
        by_cases hyml : extension = "yml"
        · exact ⟨_, .yaml (Or.inr (hyml ▸ hname))⟩
        exact ⟨_, .unknown hname htoml hyaml hyml⟩
    · exact ⟨_, .notUtf8 hnone⟩

theorem message_unsupportedExtension (extension : Option String) :
    (Error.configuration (.unsupportedExtension extension)).message =
      "Configuration error: Unsupported config file extension: " ++ extension.getD "<none>" := by
  have htext : "Configuration error: Unsupported config file extension: " =
      "Configuration error: " ++ "Unsupported config file extension: " := by decide
  rw [htext, String.append_assoc]
  rfl

/-- **A file is loaded as the text in it, by the extension of its name.** This holds however texts
are read. A file that cannot be read is answered so under every name. A name with any other
extension, or with none, is answered whatever the text is, with an error that has no key and says the
extension. -/
theorem ofFile_eq_iff (reader : ConfigReader) (name : String) (state : FileState)
    (answer : Except Error ExtensionConfig) :
    (reader.ofFile name state = answer ↔ FileAnswer reader name state answer) ∧
      ∀ extension : Option String, (ConfigurationError.unsupportedExtension extension).key? = none ∧
        (Error.configuration (.unsupportedExtension extension)).message =
          "Configuration error: Unsupported config file extension: " ++ extension.getD "<none>" := by
  refine ⟨⟨?_, ofFile_of_fileAnswer⟩, fun extension =>
    ⟨rfl, message_unsupportedExtension extension⟩⟩
  rintro rfl
  obtain ⟨answer, hanswer⟩ := exists_fileAnswer reader name state
  rw [ofFile_of_fileAnswer hanswer]
  exact hanswer

end ConfigReader

end StreamScalar
