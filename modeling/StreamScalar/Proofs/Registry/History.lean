import StreamScalar.Proofs.Table
import StreamScalar.Proofs.Text.Order
import StreamScalar.Registry

/-!
# A registry and its history

What a registry holds is read off the sequence of registrations that made it. Each of them comes to
some factories added one after another (`registerAll_eq_addAll`), so that the factories of a registry
are the table of all that were ever added, the last one of a qualified name counting
(`factories_registerAll`).

* `answers_registerAll` : the names of every registry, and what it makes of a name.
-/

namespace StreamScalar

inductive Registration (F : Type) where
  /-- One factory, whether the configuration disables its name or not. -/
  | add (factory : Factory F)
  | addDefaults

/-- The configuration that a registry is opened with, empty or with the math functions. The default
registry is one of the latter, with the default configuration. -/
inductive Opening where
  | empty (config : ExtensionConfig)
  | ofConfig (config : ExtensionConfig)

namespace Registry

variable {F : Type} [HasMath F]

def register (registry : Registry F) : Registration F → Registry F
  | .add factory => (registry.add factory).next
  | .addDefaults => registry.addDefaults.next

/-- The registry after a history of registrations. -/
def registerAll (registry : Registry F) (history : List (Registration F)) : Registry F :=
  history.foldl register registry

end Registry

namespace Opening

def config : Opening → ExtensionConfig
  | empty config | ofConfig config => config

variable {F : Type} [HasMath F]

/-- The registry that has been opened. -/
def registry : Opening → Registry F
  | empty config => .empty config
  | ofConfig config => (Registry.ofConfig config).next

/-- What is registered while a registry is opened. -/
def registrations : Opening → List (Registration F)
  | empty _ => []
  | ofConfig _ => [.addDefaults]

end Opening

/-! ## Registrations as factories added -/

/-- The factories that a registration adds under a configuration, in order. -/
def Registration.factories {F : Type} [HasMath F] (config : ExtensionConfig) :
    Registration F → List (Factory F)
  | add factory => [factory]
  | addDefaults => Registry.defaults.filter fun factory => config.isEnabled factory.name

namespace Registry

variable {F : Type}

def addAll (registry : Registry F) (added : List (Factory F)) : Registry F :=
  added.foldl (fun registry factory => (registry.add factory).next) registry

theorem config_addAll (registry : Registry F) (added : List (Factory F)) :
    (registry.addAll added).config = registry.config := by
  induction added generalizing registry with
  | nil => rfl
  | cons factory added ih => exact ih (registry.add factory).next

theorem factories_addAll (registry : Registry F) (added : List (Factory F)) :
    (registry.addAll added).factories =
      (added.map fun factory => (registry.config.qualify factory.name, factory)).foldl
        (fun t row => t.insert row.1 row.2) registry.factories := by
  induction added generalizing registry with
  | nil => rfl
  | cons factory added ih => exact ih (registry.add factory).next

theorem addAllEnabled_next (registry : Registry F) (offered : List (Factory F)) :
    (registry.addAllEnabled offered).next =
      registry.addAll (offered.filter fun factory => registry.config.isEnabled factory.name) := by
  induction offered generalizing registry with
  | nil => rfl
  | cons factory offered ih =>
    refine (ih (registry.addEnabled factory).next).trans ?_
    by_cases henabled : registry.config.isEnabled factory.name = true
    · rw [addEnabled, if_pos henabled, List.filter_cons, if_pos henabled]
      rfl
    · rw [addEnabled, if_neg henabled, List.filter_cons, if_neg henabled]

section LookUp

variable {registry : Registry F} {qualifiedName : String}

theorem mem_names_iff : qualifiedName ∈ registry.names ↔ qualifiedName ∈ registry.factories.keys :=
  List.mem_mergeSort

theorem create_eq_ok_iff {function : F} :
    registry.create qualifiedName = .ok function ↔
      ∃ factory, registry.factories.get? qualifiedName = some factory ∧
        factory.create = function := by
  rw [create]
  cases registry.factories.get? qualifiedName <;> simp

theorem mem_names_iff_exists_create :
    qualifiedName ∈ registry.names ↔ ∃ function, registry.create qualifiedName = .ok function := by
  rw [mem_names_iff, Table.mem_keys_iff, Table.contains, create]
  cases registry.factories.get? qualifiedName <;> simp

end LookUp

variable [HasMath F]

/-- All factories that a history has added, in order. -/
def added (config : ExtensionConfig) (history : List (Registration F)) : List (Factory F) :=
  history.flatMap (Registration.factories config)

theorem register_eq_addAll (registry : Registry F) (registration : Registration F) :
    registry.register registration = registry.addAll (registration.factories registry.config) := by
  cases registration with
  | add factory => rfl
  | addDefaults => exact registry.addAllEnabled_next defaults

theorem registerAll_eq_addAll (registry : Registry F) (history : List (Registration F)) :
    registry.registerAll history = registry.addAll (added registry.config history) := by
  induction history generalizing registry with
  | nil => rfl
  | cons registration history ih =>
    have hfirst := registry.register_eq_addAll registration
    have hconfig : (registry.register registration).config = registry.config := by
      rw [hfirst, config_addAll]
    refine (ih (registry.register registration)).trans ?_
    rw [hconfig, hfirst, added, added, List.flatMap_cons, addAll, addAll, addAll,
      List.foldl_append]

theorem registerAll_registry (opening : Opening) (history : List (Registration F)) :
    opening.registry.registerAll history =
      (empty opening.config).registerAll (opening.registrations ++ history) := by
  cases opening <;> rfl

theorem factories_registerAll (opening : Opening) (history : List (Registration F)) :
    (opening.registry.registerAll history).factories =
      .ofList ((added opening.config (opening.registrations ++ history)).map
        fun factory => (opening.config.qualify factory.name, factory)) := by
  rw [registerAll_registry, registerAll_eq_addAll, factories_addAll]
  rfl

/-! ## The answers of a registry -/

/-- The factory that a history has added last under a qualified name. -/
def AddedLast (config : ExtensionConfig) (history : List (Registration F)) (qualifiedName : String)
    (factory : Factory F) : Prop :=
  ∃ before after, added config history = before ++ factory :: after ∧
    config.qualify factory.name = qualifiedName ∧
    ∀ later ∈ after, config.qualify later.name ≠ qualifiedName

/-- What a registry answers according to its history. -/
structure Answers (registry : Registry F) (config : ExtensionConfig)
    (history : List (Registration F)) : Prop where
  /-- Names are listed once each, in the order of their octets. -/
  ascending : registry.names.Pairwise fun a b => Utf8.encode a < Utf8.encode b
  /-- They are those of all factories added and of the default functions that are not disabled. -/
  mem_names : ∀ qualifiedName, qualifiedName ∈ registry.names ↔
    ∃ name, qualifiedName = config.ns ++ ":" ++ name ∧
      ((∃ factory, .add factory ∈ history ∧ factory.name = name) ∨
        .addDefaults ∈ history ∧ name ∈ ["log", "round", "sinh"] ∧ name ∉ config.disabled)
  contains_iff : ∀ qualifiedName,
    registry.contains qualifiedName = true ↔ qualifiedName ∈ registry.names
  create_ok_iff : ∀ qualifiedName,
    (∃ function, registry.create qualifiedName = .ok function) ↔ qualifiedName ∈ registry.names
  create_eq : ∀ qualifiedName function, registry.create qualifiedName = .ok function ↔
    ∃ factory, AddedLast config history qualifiedName factory ∧ factory.create = function
  /-- A math function is made anew, without a signature. -/
  create_math : ∀ qualifiedName kind,
    AddedLast config history qualifiedName ((MathFunction.factory kind).map HasMath.ofMath) →
      registry.create qualifiedName =
        .ok (HasMath.ofMath ⟨kind, StreamScalar.displayName {} kind.name, none⟩)
  create_missing : ∀ qualifiedName, qualifiedName ∉ registry.names →
    registry.create qualifiedName = .error (.extensionNotFound "function" qualifiedName)

section Added

variable {config : ExtensionConfig} {history : List (Registration F)} {qualifiedName : String}

theorem mem_factories_iff {registration : Registration F} {factory : Factory F} :
    factory ∈ registration.factories config ↔
      registration = .add factory ∨
        registration = .addDefaults ∧ factory ∈ defaults ∧ factory.name ∉ config.disabled := by
  cases registration with
  | add other => simp [Registration.factories, eq_comm]
  | addDefaults => simp [Registration.factories, ExtensionConfig.isEnabled]

theorem exists_mem_defaults_iff {name : String} :
    (∃ factory ∈ (defaults : List (Factory F)), factory.name = name) ↔
      name ∈ ["log", "round", "sinh"] := by
  simp [defaults, Factory.map, MathFunction.factory, MathFunction.Kind.name, eq_comm]

theorem exists_mem_added_iff {name : String} :
    (∃ factory ∈ added config history, factory.name = name) ↔
      (∃ factory, .add factory ∈ history ∧ factory.name = name) ∨
        .addDefaults ∈ history ∧ name ∈ ["log", "round", "sinh"] ∧ name ∉ config.disabled := by
  rw [← exists_mem_defaults_iff (F := F)]
  simp only [added, List.mem_flatMap, mem_factories_iff]
  constructor
  · rintro ⟨factory, ⟨registration, hmem, rfl | ⟨rfl, hdefault, henabled⟩⟩, rfl⟩
    · exact Or.inl ⟨factory, hmem, rfl⟩
    · exact Or.inr ⟨hmem, ⟨factory, hdefault, rfl⟩, henabled⟩
  · rintro (⟨factory, hmem, rfl⟩ | ⟨hmem, ⟨factory, hdefault, rfl⟩, henabled⟩)
    · exact ⟨factory, ⟨_, hmem, Or.inl rfl⟩, rfl⟩
    · exact ⟨factory, ⟨_, hmem, Or.inr ⟨rfl, hdefault, henabled⟩⟩, rfl⟩

theorem lastRow_iff_addedLast {factory : Factory F} :
    Table.LastRow ((added config history).map fun factory => (config.qualify factory.name, factory))
      qualifiedName factory ↔ AddedLast config history qualifiedName factory := by
  constructor
  · rintro ⟨before, after, hrows, hlast⟩
    obtain ⟨before', after', hadded, -, hafter⟩ := List.map_eq_append_iff.mp hrows
    obtain ⟨factory', after'', rfl, hrow, rfl⟩ := List.map_eq_cons_iff.mp hafter
    obtain ⟨hname, rfl⟩ := Prod.mk.inj hrow
    refine ⟨before', after'', hadded, hname, fun later hlater hsame => hlast ?_⟩
    rw [List.map_map, ← hsame]
    exact List.mem_map.mpr ⟨later, hlater, rfl⟩
  · rintro ⟨before, after, hadded, rfl, hlast⟩
    refine ⟨_, _, by rw [hadded, List.map_append, List.map_cons], fun hmem => ?_⟩
    obtain ⟨later, hlater, hsame⟩ := by simpa using hmem
    exact hlast later hlater hsame

end Added

/-- **A registry answers what its history says**, for every configuration, whether it was opened empty
or not. Its names are those of the factories added, each once, and of two factories of one name the
one added later makes the functions. -/
theorem answers_registerAll (opening : Opening) (history : List (Registration F)) :
    Answers (opening.registry.registerAll history) opening.config
      (opening.registrations ++ history) := by
  have hfactories := factories_registerAll opening history
  generalize opening.registry.registerAll history = registry at hfactories ⊢
  generalize opening.registrations ++ history = history at hfactories ⊢
  have hcreate : ∀ qualifiedName function, registry.create qualifiedName = .ok function ↔
      ∃ factory, AddedLast opening.config history qualifiedName factory ∧
        factory.create = function := by
    intro qualifiedName function
    simp only [create_eq_ok_iff, hfactories, Table.get?_ofList_eq_some_iff_lastRow,
      lastRow_iff_addedLast]
  refine ⟨Utf8.pairwise_encode_mergeSort registry.factories.nodup, fun qualifiedName => ?_,
    fun qualifiedName => ?_, fun qualifiedName => mem_names_iff_exists_create.symm, hcreate,
    fun qualifiedName kind hlast => (hcreate _ _).mpr ⟨_, hlast, rfl⟩, fun qualifiedName hmissing => ?_⟩
  · rw [mem_names_iff, hfactories, Table.mem_keys_ofList_iff, List.map_map, List.mem_map]
    simp only [← exists_mem_added_iff]
    constructor
    · rintro ⟨factory, hmem, rfl⟩
      exact ⟨factory.name, rfl, factory, hmem, rfl⟩
    · rintro ⟨_, rfl, factory, hmem, rfl⟩
      exact ⟨factory, hmem, rfl⟩
  · rw [mem_names_iff, Table.mem_keys_iff, contains]
  · rw [mem_names_iff, Table.mem_keys_iff, Table.contains] at hmissing
    rw [create, Option.not_isSome_iff_eq_none.mp hmissing]

end Registry

end StreamScalar
