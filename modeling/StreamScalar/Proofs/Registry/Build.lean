import StreamScalar.Proofs.Checkpoint.RunningSum
import StreamScalar.Proofs.Function.TypeSoundness
import StreamScalar.Registry

/-!
# What a registry builds

A call site is built in three steps, and the first that fails answers: the name is looked up, the
arguments are counted, and their declared types are judged from the first on. Values play no part.

* `BuildAnswers` : the answers for a math function, for argument lists of every length.
* `build_outcomes` : every registry that makes a math function of a name gives these answers.
-/

namespace StreamScalar

/-- The math functions in a larger type also keep the type of their results. -/
class TypedMath (F : Type) [ScalarFunction F] [HasMath F] : Prop extends LawfulMath F where
  returnType (f : MathFunction) :
    ScalarFunction.returnType (HasMath.ofMath f : F) = ScalarFunction.returnType f

instance : TypedMath MathFunction where
  returnType _ := rfl

instance : TypedMath HostFunction where
  returnType _ := rfl

namespace MathFunction

theorem Kind.judged_parameters (kind : Kind) (arguments : List Argument) (function : String) :
    Judged function arguments kind.arity kind.accepted
      (checkSignature function arguments kind.parameters) := by
  rw [kind.parameters_eq]
  exact judged_checkSignature function arguments kind.arity kind.accepted

end MathFunction

namespace Registry

open MathFunction (Kind)

variable {F : Type}

theorem create_eq_error_iff {registry : Registry F} {qualifiedName : String} {e : Error} :
    registry.create qualifiedName = .error e ↔
      registry.contains qualifiedName = false ∧ e = .extensionNotFound "function" qualifiedName := by
  unfold create contains Table.contains
  cases registry.factories.get? qualifiedName <;> simp [eq_comm]

variable [ScalarFunction F]

/-- What is answered to a list of arguments for a math function. -/
structure BuildAnswers (kind : Kind) (arguments : List Argument) (ctx : AppContext)
    (answer : Except Error (CallSite F)) : Prop where
  arityMismatch_iff : ∀ function expected found,
    answer = .error (.validation (.arityMismatch function expected found)) ↔
      arguments.length ≠ kind.arity ∧ function = displayName ctx kind.name ∧
        expected = kind.arity ∧ found = arguments.length
  /-- The first argument whose declared type is not accepted is named. -/
  typeMismatch_iff : ∀ function position expected found,
    answer = .error (.validation (.typeMismatch function position expected found)) ↔
      arguments.length = kind.arity ∧
        FirstMismatch (arguments.map Argument.declaredType) kind.accepted position found ∧
        function = displayName ctx kind.name ∧ expected = kind.accepted
  ok_iff : (∃ site, answer = .ok site) ↔
    arguments.length = kind.arity ∧
      ∀ type ∈ arguments.map Argument.declaredType, type ∈ kind.accepted
  state_eq : ∀ site, answer = .ok site → site.state = .validated
  returnType_eq : ∀ site, answer = .ok site →
    (kind ≠ .round → site.returnType = .double) ∧
    (kind = .round →
      arguments.map Argument.declaredType = [.float] ∧ site.returnType = .int ∨
      arguments.map Argument.declaredType = [.double] ∧ site.returnType = .long)

section LookUp

variable {registry : Registry F} {qualifiedName : String} {arguments : List Argument}
  {ctx : AppContext}

theorem build_of_create_error {e : Error} (h : registry.create qualifiedName = .error e) :
    (registry.build qualifiedName arguments ctx).answer = .error e := by
  unfold build
  rw [h]

theorem build_of_create_ok {function : F} (h : registry.create qualifiedName = .ok function) :
    (registry.build qualifiedName arguments ctx).answer =
      (CallSite.compile function arguments ctx).answer.mapError .validation := by
  unfold build
  rw [h]
  rfl

/-- A name that is not registered is the first thing to be found, and nothing else is answered so. -/
theorem build_eq_extensionNotFound_iff {kind name : String} :
    (registry.build qualifiedName arguments ctx).answer = .error (.extensionNotFound kind name) ↔
      registry.contains qualifiedName = false ∧ kind = "function" ∧ name = qualifiedName := by
  cases h : registry.create qualifiedName with
  | error e =>
    obtain ⟨hmissing, rfl⟩ := create_eq_error_iff.mp h
    rw [build_of_create_error h]
    simp [hmissing, eq_comm]
  | ok function =>
    have hcontains : registry.contains qualifiedName ≠ false := by
      intro hmissing
      rw [create_eq_error_iff.mpr ⟨hmissing, rfl⟩] at h
      cases h
    rw [build_of_create_ok h]
    constructor
    · intro heq
      cases hcompiled : (CallSite.compile function arguments ctx).answer <;>
        rw [hcompiled] at heq <;> cases heq
    · exact fun hmissing => absurd hmissing.1 hcontains

end LookUp

section Math

variable [HasMath F] [TypedMath F] (f : MathFunction) {arguments : List Argument} {ctx : AppContext}

theorem compile_ofMath_error {e : ValidationError}
    (h : checkSignature (displayName ctx f.kind.name) arguments f.kind.parameters = .error e) :
    (CallSite.compile (HasMath.ofMath f : F) arguments ctx).answer = .error e := by
  rw [CallSite.compile_eq_error_iff, LawfulMath.validate]
  show (f.validate arguments ctx).answer = .error e
  rw [f.validate_answer, h]
  rfl

theorem compile_ofMath_ok {types : List AttributeType}
    (h : checkSignature (displayName ctx f.kind.name) arguments f.kind.parameters = .ok types) :
    ∃ site : CallSite F, (CallSite.compile (HasMath.ofMath f : F) arguments ctx).answer = .ok site ∧
      site.state = .validated ∧ site.returnType = f.kind.returnType types := by
  have hanswer : (f.validate arguments ctx).answer = .ok () := by
    rw [f.validate_answer, h]
    rfl
  obtain ⟨rfl, -⟩ := checkSignature_eq_ok_iff.mp h
  obtain ⟨-, hnext⟩ := MathFunction.validate_next hanswer
  refine ⟨_, CallSite.compile_eq_ok_iff.mpr ⟨?_, rfl⟩, rfl, ?_⟩
  · rw [LawfulMath.validate]
    exact hanswer
  · show ScalarFunction.returnType (ScalarFunction.validate (HasMath.ofMath f : F) arguments ctx).next = _
    rw [LawfulMath.validate]
    show ScalarFunction.returnType (HasMath.ofMath (f.validate arguments ctx).next : F) = _
    rw [TypedMath.returnType, hnext]
    exact MathFunction.returnType_validated _

theorem returnType_of_accepted {kind : Kind} {types : List AttributeType}
    (hlength : types.length = kind.arity) (h : ∀ type ∈ types, type ∈ kind.accepted) :
    (kind ≠ .round → kind.returnType types = .double) ∧
    (kind = .round → types = [.float] ∧ kind.returnType types = .int ∨
      types = [.double] ∧ kind.returnType types = .long) := by
  cases kind with
  | log => exact ⟨fun _ => rfl, fun heq => (by cases heq)⟩
  | sinh => exact ⟨fun _ => rfl, fun heq => (by cases heq)⟩
  | round =>
    refine ⟨fun hne => absurd rfl hne, fun _ => ?_⟩
    obtain ⟨type, rfl⟩ := List.length_eq_one_iff.mp hlength
    rcases List.mem_pair.mp (h type List.mem_cons_self) with rfl | rfl
    · exact Or.inl ⟨rfl, rfl⟩
    · exact Or.inr ⟨rfl, rfl⟩

theorem compile_ofMath_eq_error_iff {e : ValidationError} :
    (CallSite.compile (HasMath.ofMath f : F) arguments ctx).answer = .error e ↔
      checkSignature (displayName ctx f.kind.name) arguments f.kind.parameters = .error e := by
  refine ⟨fun h => ?_, compile_ofMath_error f⟩
  cases hchecked : checkSignature (displayName ctx f.kind.name) arguments f.kind.parameters with
  | error e' =>
    rw [compile_ofMath_error f hchecked, Except.error.injEq] at h
    rw [h]
  | ok types =>
    obtain ⟨site, hsite, -⟩ := compile_ofMath_ok (F := F) f hchecked
    rw [hsite] at h
    cases h

theorem buildAnswers_compile :
    BuildAnswers f.kind arguments ctx
      ((CallSite.compile (HasMath.ofMath f : F) arguments ctx).answer.mapError .validation) := by
  have hjudged := f.kind.judged_parameters arguments (displayName ctx f.kind.name)
  have herror : ∀ e, (CallSite.compile (HasMath.ofMath f : F) arguments ctx).answer.mapError
      Error.validation = .error (.validation e) ↔
        checkSignature (displayName ctx f.kind.name) arguments f.kind.parameters = .error e := by
    intro e
    rw [← compile_ofMath_eq_error_iff (F := F)]
    cases (CallSite.compile (HasMath.ofMath f : F) arguments ctx).answer <;> simp [Except.mapError]
  have hok : ∀ site, (CallSite.compile (HasMath.ofMath f : F) arguments ctx).answer.mapError
      Error.validation = .ok site → ∃ types,
        checkSignature (displayName ctx f.kind.name) arguments f.kind.parameters = .ok types ∧
        site.state = .validated ∧ site.returnType = f.kind.returnType types := by
    intro site hsite
    cases hchecked : checkSignature (displayName ctx f.kind.name) arguments f.kind.parameters with
    | error e =>
      rw [compile_ofMath_error f hchecked] at hsite
      cases hsite
    | ok types =>
      obtain ⟨built, hbuilt, hstate, htype⟩ := compile_ofMath_ok (F := F) f hchecked
      rw [hbuilt] at hsite
      cases hsite
      exact ⟨types, rfl, hstate, htype⟩
  -- an answer of the registry is one of the checks, whose answers are known from `Judged`
  refine ⟨fun name expected found => ?_, fun name position expected found => ?_, ?_,
    fun site hsite => ?_, fun site hsite => ?_⟩
  · rw [herror, hjudged.arityMismatch_iff]
  · rw [herror, hjudged.typeMismatch_iff]
  · rw [← hjudged.ok_iff]
    constructor
    · rintro ⟨site, hsite⟩
      obtain ⟨types, htypes, -⟩ := hok site hsite
      exact ⟨types, htypes⟩
    · rintro ⟨types, htypes⟩
      obtain ⟨site, hsite, -⟩ := compile_ofMath_ok (F := F) f htypes
      exact ⟨site, by rw [hsite]; rfl⟩
  · obtain ⟨-, -, hstate, -⟩ := hok site hsite
    exact hstate
  · obtain ⟨types, htypes, -, htype⟩ := hok site hsite
    obtain ⟨hlength, haccepted⟩ := hjudged.ok_iff.mp ⟨types, htypes⟩
    obtain ⟨rfl, -⟩ := checkSignature_eq_ok_iff.mp htypes
    rw [htype]
    exact returnType_of_accepted (by simpa using hlength) haccepted

end Math

/-- **A registry builds what is well typed, and reports the first fault.** A name that is not
registered is answered whatever the arguments are; for the name of a math function the number of
arguments is judged next, and their declared types last. No check looks past the end of the list. -/
theorem build_outcomes [HasMath F] [TypedMath F] (registry : Registry F) (qualifiedName : String)
    (arguments : List Argument) (ctx : AppContext) :
    (∀ kind name,
      (registry.build qualifiedName arguments ctx).answer = .error (.extensionNotFound kind name) ↔
        registry.contains qualifiedName = false ∧ kind = "function" ∧ name = qualifiedName) ∧
    ∀ f : MathFunction, registry.create qualifiedName = .ok (HasMath.ofMath f) →
      BuildAnswers f.kind arguments ctx (registry.build qualifiedName arguments ctx).answer ∧
      checkSignature? (displayName ctx f.kind.name) arguments f.kind.parameters =
        ExceptT.mk (some (checkSignature (displayName ctx f.kind.name) arguments
          f.kind.parameters)) := by
  refine ⟨fun kind name => build_eq_extensionNotFound_iff, fun f hcreate => ⟨?_, ?_⟩⟩
  · rw [build_of_create_ok hcreate]
    exact buildAnswers_compile f
  · exact checkSignature?_eq _ arguments f.kind.parameters

/-- The default registry, with lists of arguments that are too short, that have two bad types, and
that are well typed without a value. -/
theorem build_outcomes_log :
    let registry : Registry HostFunction := (ofConfig {}).next
    let build := fun arguments => (registry.build "math:log" arguments {}).answer
    registry.create "math:log" = .ok (HasMath.ofMath (.create .log)) ∧
      build [.absent .string] = .error (.validation (.arityMismatch "math:log()" 2 1)) ∧
      build [.attributeAt 7 .bool, .constant (.string "e")] =
        .error (.validation (.typeMismatch "math:log()" 0 AttributeType.numeric .bool)) ∧
      ∃ site, build [.absent .long, .attributeAt 7 .float] = .ok site ∧ site.state = .validated ∧
        site.returnType = .double := by
  intro registry build
  have hcreate : registry.create "math:log" = .ok (HasMath.ofMath (.create .log)) := by rfl
  have hname : displayName {} Kind.log.name = "math:log()" := by decide
  have hanswers := fun arguments =>
    ((build_outcomes registry "math:log" arguments {}).2 (.create .log) hcreate).1
  refine ⟨hcreate, ?_, ?_, ?_⟩
  · exact ((hanswers _).arityMismatch_iff _ _ _).mpr ⟨by decide, hname.symm, rfl, rfl⟩
  · refine ((hanswers _).typeMismatch_iff _ _ _ _).mpr ⟨rfl, ⟨rfl, by decide, ?_⟩, hname.symm, rfl⟩
    exact fun earlier hlt => absurd hlt (Nat.not_lt_zero earlier)
  · obtain ⟨site, hsite⟩ := (hanswers [.absent .long, .attributeAt 7 .float]).ok_iff.mpr
      ⟨rfl, by decide⟩
    have htypes := (hanswers [.absent .long, .attributeAt 7 .float]).returnType_eq site hsite
    exact ⟨site, hsite, (hanswers _).state_eq site hsite, htypes.1 (by decide)⟩

end Registry

end StreamScalar
