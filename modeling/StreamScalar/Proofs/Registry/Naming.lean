import StreamScalar.Proofs.Function.Errors
import StreamScalar.Proofs.Registry.Build
import StreamScalar.Proofs.Registry.History

/-!
# The two names of a call site

A call site is looked up under the namespace of the registry and reports under the namespace of the
context that it is compiled in. Between the two stands the function that the factory makes: if it
goes by the name of its factory, both names end alike, and they are one name if and only if the
namespaces are one text. Nothing is assumed of that text, which may hold colons itself.

* `qualifiedName_of_build` : the two names, and the names in all errors of the call site.
-/

namespace StreamScalar

/-- The math functions in a larger type also keep their names. -/
class NamedMath (F : Type) [ScalarFunction F] [HasMath F] : Prop extends LawfulMath F where
  name (f : MathFunction) : ScalarFunction.name (HasMath.ofMath f : F) = ScalarFunction.name f

instance : NamedMath MathFunction where
  name _ := rfl

instance : NamedMath HostFunction where
  name _ := rfl

namespace CallSite

variable {F : Type} [ScalarFunction F]

/-- What a call site refuses, it refuses under a name, and says the position it is at. -/
structure RefusesAs (name : String) (site : CallSite F) : Prop where
  start : ∀ e, site.start.answer = .error e → e = .invalidState name .start site.state
  stop : ∀ e, site.stop.answer = .error e → e = .invalidState name .stop site.state
  execute : site.state ≠ .started → ∀ data,
    (site.execute data).answer = .error (.invalidState name .execute site.state)
  process : site.state ≠ .started → ∀ event,
    (site.process event).answer = .error (.invalidState name .execute site.state)

/-- What the function at a started call site cannot do, it reports under a name. -/
structure FailsAs (name : String) (site : CallSite F) : Prop where
  execute : site.state = .started → ∀ data e,
    (site.execute data).answer = .error e → e.OnEvent name
  process : site.state = .started → ∀ event e,
    (site.process event).answer = .error e → e.OnEvent name

theorem refusesAs_qualifiedName (site : CallSite F) : RefusesAs site.qualifiedName site where
  start e he := by
    by_cases hstate : site.state = .validated
    · rw [start_of_validated hstate] at he
      cases he
    · rw [start_of_ne hstate] at he
      cases he
      rfl
  stop e he := by
    by_cases hstate : site.state = .stopped
    · rw [stop_of_stopped hstate] at he
      cases he
      rfl
    · rw [stop_of_ne hstate] at he
      cases he
  execute hstate data := by
    rw [execute_of_ne hstate]
    rfl
  process hstate event := by
    rw [CallSite.process, execute_of_ne hstate]
    rfl

section Math

variable [HasMath F] [LawfulMath F] {f : MathFunction} {site : CallSite F}

theorem failsAs_displayName {types : List AttributeType} (h : site.function = HasMath.ofMath f)
    (hsignature : f.signature = some types) : FailsAs f.displayName site := by
  have hexecute : site.state = .started → ∀ data e,
      (site.execute data).answer = .error e → e.OnEvent f.displayName := by
    intro hstate data e he
    rw [execute_of_started_answer hstate, h, LawfulMath.execute] at he
    exact MathFunction.onEvent_of_execute hsignature he
  exact ⟨hexecute, fun hstate event => hexecute hstate _⟩

end Math

end CallSite

namespace Registry

variable {F : Type} [ScalarFunction F]

theorem build_eq_ok_iff {registry : Registry F} {qualifiedName : String} {arguments : List Argument}
    {ctx : AppContext} {site : CallSite F} :
    (registry.build qualifiedName arguments ctx).answer = .ok site ↔
      ∃ function, registry.create qualifiedName = .ok function ∧
        (CallSite.compile function arguments ctx).answer = .ok site := by
  cases hcreate : registry.create qualifiedName with
  | error e => simp [build_of_create_error hcreate]
  | ok function =>
    rw [build_of_create_ok hcreate]
    cases hcompile : (CallSite.compile function arguments ctx).answer <;>
      simp [Except.mapError, hcompile]

/-! ## Where a function comes from -/

/-- The functions of a factory go by its name. -/
def NamesFunction (factory : Factory F) : Prop :=
  ScalarFunction.name factory.create = factory.name

section Named

variable [HasMath F] {opening : Opening} {history : List (Registration F)}

omit [ScalarFunction F] in
/-- A function that a registry makes is one of a factory that has been added to it, by hand or as a
default. -/
theorem exists_factory_of_create {qualifiedName : String} {function : F}
    (h : (opening.registry.registerAll history).create qualifiedName = .ok function) :
    ∃ factory : Factory F, opening.config.qualify factory.name = qualifiedName ∧
      factory.create = function ∧ (.add factory ∈ history ∨ factory ∈ defaults) := by
  obtain ⟨factory, hget, hfunction⟩ := create_eq_ok_iff.mp h
  rw [factories_registerAll, Table.get?_ofList_eq_some_iff_lastRow, lastRow_iff_addedLast] at hget
  obtain ⟨before, after, hadded, hname, -⟩ := hget
  refine ⟨factory, hname, hfunction, ?_⟩
  have hmem : factory ∈ added opening.config (opening.registrations ++ history) := by
    simp [hadded]
  obtain ⟨registration, hregistration, hfactory⟩ := List.mem_flatMap.mp hmem
  rcases mem_factories_iff.mp hfactory with rfl | ⟨-, hdefault, -⟩
  · rcases List.mem_append.mp hregistration with hopening | hhistory
    · -- a registry is opened with default functions only
      cases opening <;> simp [Opening.registrations] at hopening
    · exact Or.inl hhistory
  · exact Or.inr hdefault

variable [NamedMath F]

theorem namesFunction_of_mem_defaults {factory : Factory F} (h : factory ∈ defaults) :
    NamesFunction factory := by
  obtain ⟨kind, -, rfl⟩ := List.mem_map.mp h
  exact NamedMath.name (MathFunction.create kind)

/-- **A call site is looked up and reports under one name if and only if the registry and the context
have one namespace.** The two names end in the name of the function. What the call site refuses
carries its own name, and what a math function cannot do the same name with parentheses. -/
theorem qualifiedName_of_build (hnamed : ∀ factory, .add factory ∈ history → NamesFunction factory)
    {qualifiedName : String} {arguments : List Argument} {ctx : AppContext} {site : CallSite F}
    (hbuilt : ((opening.registry.registerAll history).build qualifiedName arguments ctx).answer =
      .ok site) :
    ∃ name, qualifiedName = opening.config.ns ++ ":" ++ name ∧
      site.qualifiedName = ctx.config.ns ++ ":" ++ name ∧
      (site.qualifiedName = qualifiedName ↔ opening.config.ns = ctx.config.ns) ∧
      (∀ calls, (site.run calls).next.RefusesAs (ctx.config.ns ++ ":" ++ name)) ∧
      ∀ f : MathFunction,
        (opening.registry.registerAll history).create qualifiedName = .ok (HasMath.ofMath f) →
          name = f.kind.name ∧
          (∀ calls, (site.run calls).next.FailsAs (ctx.config.ns ++ ":" ++ name ++ "()")) ∧
          ∀ others e, ((opening.registry.registerAll history).build qualifiedName others ctx).answer =
              .error (.validation e) → e.function = ctx.config.ns ++ ":" ++ name ++ "()" := by
  obtain ⟨function, hcreate, hcompile⟩ := build_eq_ok_iff.mp hbuilt
  obtain ⟨factory, rfl, rfl, horigin⟩ := exists_factory_of_create hcreate
  have hname : ScalarFunction.name factory.create = factory.name :=
    horigin.elim (hnamed factory) namesFunction_of_mem_defaults
  obtain ⟨hvalid, hsite⟩ := CallSite.compile_eq_ok_iff.mp hcompile
  have hreported : site.qualifiedName = ctx.config.ns ++ ":" ++ factory.name := by
    rw [hsite, hname]
    rfl
  refine ⟨factory.name, rfl, hreported, ?_, ?_, ?_⟩
  · rw [hreported, ExtensionConfig.qualify, String.append_left_inj, String.append_left_inj]
    exact eq_comm
  · intro calls
    rw [← hreported, ← site.run_qualifiedName calls]
    exact CallSite.refusesAs_qualifiedName _
  · intro f hf
    obtain hfunction : factory.create = HasMath.ofMath f := Except.ok.inj (hcreate.symm.trans hf)
    have hkind : factory.name = f.kind.name := by
      rw [← hname, hfunction]
      exact NamedMath.name f
    rw [hfunction, LawfulMath.validate] at hvalid
    obtain ⟨-, hnext⟩ := MathFunction.validate_next hvalid
    refine ⟨hkind, ?_, ?_⟩
    · intro calls
      have hsame : site.function = HasMath.ofMath
          (.validated f.kind ctx (arguments.map Argument.declaredType)) := by
        rw [hsite, hfunction, LawfulMath.validate]
        exact congrArg HasMath.ofMath hnext
      rw [hkind]
      exact CallSite.failsAs_displayName (CallSite.run_ofMath hsame calls) rfl
    · intro others e he
      rw [build_of_create_ok hf] at he
      have hrejected : (CallSite.compile (HasMath.ofMath f : F) others ctx).answer = .error e := by
        cases hother : (CallSite.compile (HasMath.ofMath f : F) others ctx).answer <;>
          rw [hother] at he <;> cases he
        rfl
      rw [CallSite.compile_eq_error_iff, LawfulMath.validate] at hrejected
      rw [hkind]
      exact MathFunction.function_of_validate hrejected

/-- A namespace that goes on behind a colon: the shorter one of the context is reported, so the call
site is not found under the name that it reports. -/
theorem qualifiedName_of_build_colon :
    let history : List (Registration HostFunction) := [.add (RunningSum.factory.map .runningSum)]
    let registry := (Opening.ofConfig { ns := "m:n" }).registry.registerAll history
    let ctx : AppContext := { config := { ns := "m" } }
    (∀ factory, .add factory ∈ history → NamesFunction factory) ∧
      ∃ site, (registry.build "m:n:round" [.attributeAt 0 .float] ctx).answer = .ok site ∧
        site.qualifiedName = "m:round" ∧ site.qualifiedName ≠ "m:n:round" ∧
        (site.execute [none]).answer = .error (.invalidState "m:round" .execute .validated) ∧
        (site.run [.start]).next.FailsAs "m:round()" := by
  intro history registry ctx
  have hnamed : ∀ factory, .add factory ∈ history → NamesFunction factory := by
    intro factory hmem
    obtain rfl : factory = RunningSum.factory.map .runningSum := by simpa [history] using hmem
    rfl
  obtain ⟨site, hbuilt⟩ :
      ∃ site, (registry.build "m:n:round" [.attributeAt 0 .float] ctx).answer = .ok site := ⟨_, rfl⟩
  have hstate : site.state = .validated := by
    cases hbuilt
    rfl
  obtain ⟨name, -, hreported, hsame, hrefuses, hmath⟩ := qualifiedName_of_build hnamed hbuilt
  obtain ⟨rfl, hfails, -⟩ := hmath (.create .round) rfl
  refine ⟨hnamed, site, hbuilt, hreported, ?_, ?_, hfails [.start]⟩
  · rw [Ne, hsame]
    decide
  · have hrefused := (hrefuses []).execute (by rw [CallSite.run, hstate]; decide) [none]
    rwa [CallSite.run, hstate] at hrefused

end Named

end Registry

end StreamScalar
