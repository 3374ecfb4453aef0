import StreamScalar.Function.Math
import StreamScalar.Proofs.CallSite.Run
import StreamScalar.Proofs.Function.Checks

/-!
# Call sites of the math functions

What compilation makes of `log`, `round` and `sinh`, and that nothing a host does afterwards changes
the function: their call sites have a lifecycle position and no other state.

* `accepts_iff` : the argument types that a function takes, by its arity and one set of types.
* `validate_next` : what a successful validation makes of any instance.
* `compile_create_eq_ok_iff` : which argument lists are compiled, and to what.
* `run_function` : after every run the function is the one that was compiled.
-/

namespace StreamScalar

namespace MathFunction

open CallSite (Call)

/-- The argument types are ones that a function takes. -/
def Accepts (kind : Kind) (types : List AttributeType) : Prop :=
  List.Forall₂ (fun type accepted => type ∈ accepted) types kind.parameters

def Kind.arity : Kind → Nat
  | log => 2
  | round | sinh => 1

def Kind.accepted : Kind → List AttributeType
  | round => AttributeType.floating
  | log | sinh => AttributeType.numeric

theorem Kind.parameters_eq (kind : Kind) :
    kind.parameters = List.replicate kind.arity kind.accepted := by
  cases kind <;> rfl

theorem mem_numeric_of_mem_floating {type : AttributeType} (h : type ∈ AttributeType.floating) :
    type ∈ AttributeType.numeric := by
  cases type <;> simp_all [AttributeType.floating, AttributeType.numeric]

theorem Kind.mem_numeric_of_mem_accepted {kind : Kind} {type : AttributeType}
    (h : type ∈ kind.accepted) : type ∈ AttributeType.numeric := by
  cases kind with
  | round => exact mem_numeric_of_mem_floating h
  | log => exact h
  | sinh => exact h

theorem accepts_iff {kind : Kind} {types : List AttributeType} :
    Accepts kind types ↔ types.length = kind.arity ∧ ∀ type ∈ types, type ∈ kind.accepted := by
  unfold Accepts
  rw [kind.parameters_eq, forall₂_mem_replicate_iff]

def validated (kind : Kind) (ctx : AppContext) (types : List AttributeType) : MathFunction :=
  ⟨kind, StreamScalar.displayName ctx kind.name, some types⟩

/-- The function has been validated, the last time with success against arguments of these declared
types. -/
def IsValidated (f : MathFunction) (types : List AttributeType) : Prop :=
  f.signature = some types ∧ Accepts f.kind types

theorem validate_answer (f : MathFunction) (arguments : List Argument) (ctx : AppContext) :
    (f.validate arguments ctx).answer =
      (checkSignature (StreamScalar.displayName ctx f.kind.name) arguments f.kind.parameters).map
        fun _ => () := by
  unfold validate
  dsimp only
  cases checkSignature (StreamScalar.displayName ctx f.kind.name) arguments f.kind.parameters <;> rfl

/-- A successful validation makes a validated function of every instance, whatever it was before. -/
theorem validate_next {f : MathFunction} {arguments : List Argument} {ctx : AppContext}
    (h : (f.validate arguments ctx).answer = .ok ()) :
    Accepts f.kind (arguments.map Argument.declaredType) ∧
      (f.validate arguments ctx).next =
        validated f.kind ctx (arguments.map Argument.declaredType) := by
  unfold validate at h ⊢
  dsimp only at h ⊢
  split at h
  · next types hchecked =>
    obtain ⟨rfl, haccepts⟩ := checkSignature_eq_ok_iff.mp hchecked
    exact ⟨haccepts, rfl⟩
  · cases h

theorem isValidated_of_validate {f : MathFunction} {arguments : List Argument} {ctx : AppContext}
    (h : (f.validate arguments ctx).answer = .ok ()) :
    (f.validate arguments ctx).next.IsValidated (arguments.map Argument.declaredType) := by
  obtain ⟨haccepts, hnext⟩ := validate_next h
  rw [hnext]
  exact ⟨rfl, haccepts⟩

theorem validate_eq_ok_iff {f : MathFunction} {arguments : List Argument} {ctx : AppContext} :
    (f.validate arguments ctx).answer = .ok () ↔
      Accepts f.kind (arguments.map Argument.declaredType) := by
  rw [validate_answer]
  cases h : checkSignature (StreamScalar.displayName ctx f.kind.name) arguments f.kind.parameters with
  | error e =>
    constructor
    · intro hanswer
      cases hanswer
    · intro haccepts
      rw [checkSignature_eq_ok_iff.mpr ⟨rfl, haccepts⟩] at h
      cases h
  | ok types =>
    obtain ⟨rfl, haccepts⟩ := checkSignature_eq_ok_iff.mp h
    exact ⟨fun _ => haccepts, fun _ => rfl⟩

theorem validate_create (kind : Kind) (arguments : List Argument) (ctx : AppContext) :
    (ScalarFunction.validate (create kind) arguments ctx).answer = .ok () ↔
      Accepts kind (arguments.map Argument.declaredType) :=
  validate_eq_ok_iff

theorem validate_create_next {kind : Kind} {arguments : List Argument} {ctx : AppContext}
    (h : Accepts kind (arguments.map Argument.declaredType)) :
    (ScalarFunction.validate (create kind) arguments ctx).next =
      validated kind ctx (arguments.map Argument.declaredType) := by
  obtain ⟨-, hnext⟩ := validate_next ((validate_create kind arguments ctx).mpr h)
  exact hnext

theorem compile_create_eq_ok_iff {kind : Kind} {arguments : List Argument} {ctx : AppContext}
    {site : CallSite MathFunction} :
    (CallSite.compile (create kind) arguments ctx).answer = .ok site ↔
      Accepts kind (arguments.map Argument.declaredType) ∧
        site = ⟨validated kind ctx (arguments.map Argument.declaredType), arguments,
          ctx.config.qualify kind.name, .validated⟩ := by
  rw [CallSite.compile_eq_ok_iff, validate_create]
  refine and_congr_right fun h => ?_
  rw [validate_create_next h]
  rfl

/-! ## Nothing changes the function -/

theorem perform_function (site : CallSite MathFunction) (call : Call) :
    (site.perform call).next.function = site.function := by
  obtain ⟨function, arguments, qualifiedName, state⟩ := site
  cases call <;> cases state <;> rfl

theorem run_function (site : CallSite MathFunction) (calls : List Call) :
    (site.run calls).next.function = site.function := by
  refine CallSite.run_preserves (P := fun current => current.function = site.function)
    (fun current call h => ?_) rfl calls
  rw [perform_function, h]

end MathFunction

end StreamScalar
