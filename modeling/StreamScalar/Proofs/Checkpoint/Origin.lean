import StreamScalar.Proofs.Function.Math
import StreamScalar.Proofs.Function.Naming

/-!
# Where the state of a function comes from

An origin is a fresh function with the declared types of its arguments. Its instances are the states
that it can come to at any call site: once validated in an admitted context, it may be started,
stopped, executed and restored in any order. An origin is restorable if what one instance captures
brings exactly that instance back in any other.

* `Origin.restore_sameState` : restorable functions and math functions come back.
* `Origin.restorable_of_isMath` : math functions are restorable where all contexts have one namespace.
-/

namespace StreamScalar

theorem displayName_eq_of_ns {ctx ctx' : AppContext} (h : ctx.config.ns = ctx'.config.ns)
    (name : String) : displayName ctx name = displayName ctx' name := by
  rw [displayName, displayName, ExtensionConfig.qualify, ExtensionConfig.qualify, h]

/-- A fresh function and the declared types of the arguments that it is validated with. -/
structure Origin (F : Type) where
  function : F
  types : List AttributeType

namespace Origin

variable {F : Type} [ScalarFunction F]

/-- The states of an origin at call sites that are compiled in admitted contexts. -/
inductive Instance (contexts : AppContext → Prop) (origin : Origin F) : F → Prop
  | validate {arguments : List Argument} {ctx : AppContext} :
      arguments.map Argument.declaredType = origin.types → contexts ctx →
      (ScalarFunction.validate origin.function arguments ctx).answer = .ok () →
      Instance contexts origin (ScalarFunction.validate origin.function arguments ctx).next
  | start {f : F} : Instance contexts origin f → Instance contexts origin (ScalarFunction.start f)
  | stop {f : F} : Instance contexts origin f → Instance contexts origin (ScalarFunction.stop f)
  | execute {f : F} (data : Row) :
      Instance contexts origin f → Instance contexts origin (ScalarFunction.execute f data).next
  | restore {f : F} (s : Snapshot) :
      Instance contexts origin f → Instance contexts origin (ScalarFunction.restore f s).next

/-- What one instance captures brings exactly that instance back in any other. -/
def Restorable (contexts : AppContext → Prop) (origin : Origin F) : Prop :=
  ∀ f g s, origin.Instance contexts f → origin.Instance contexts g →
    ScalarFunction.snapshot f = .ok s →
    (ScalarFunction.restore g s).answer = .ok () ∧ (ScalarFunction.restore g s).next = f

/-- The function is one of the math functions. -/
def IsMath [HasMath F] (origin : Origin F) : Prop :=
  ∃ kind, origin.function = HasMath.ofMath (MathFunction.create kind)

variable {contexts : AppContext → Prop} {origin : Origin F}

theorem Instance.perform {site : CallSite F} (h : origin.Instance contexts site.function)
    (call : CallSite.Call) : origin.Instance contexts (site.perform call).next.function :=
  CallSite.perform_function_preserves (fun _ hf => hf.start) (fun _ hf => hf.stop)
    (fun _ data hf => hf.execute data) (fun _ s hf => hf.restore s) h call

/-! ## Math functions -/

section Math

variable [HasMath F] [LawfulMath F]

theorem Instance.exists_of_isMath {kind : MathFunction.Kind}
    (horigin : origin.function = HasMath.ofMath (MathFunction.create kind)) {f : F}
    (h : origin.Instance contexts f) :
    ∃ ctx, contexts ctx ∧ f = HasMath.ofMath (MathFunction.validated kind ctx origin.types) := by
  induction h with
  | @validate arguments ctx htypes hctx hanswer =>
    rw [horigin, LawfulMath.validate] at hanswer ⊢
    have haccepts := (MathFunction.validate_create kind arguments ctx).mp hanswer
    refine ⟨ctx, hctx, ?_⟩
    rw [← htypes, ← MathFunction.validate_create_next haccepts]
    rfl
  | start _ ih =>
    obtain ⟨ctx, hctx, rfl⟩ := ih
    exact ⟨ctx, hctx, LawfulMath.start _⟩
  | stop _ ih =>
    obtain ⟨ctx, hctx, rfl⟩ := ih
    exact ⟨ctx, hctx, LawfulMath.stop _⟩
  | execute data _ ih =>
    obtain ⟨ctx, hctx, rfl⟩ := ih
    exact ⟨ctx, hctx, by rw [LawfulMath.execute]; rfl⟩
  | restore s _ ih =>
    obtain ⟨ctx, hctx, rfl⟩ := ih
    exact ⟨ctx, hctx, by rw [LawfulMath.restore]; rfl⟩

/-- What is captured of a math function or of a restorable one brings back its state. -/
theorem restore_sameState (horigin : origin.IsMath ∨ origin.Restorable contexts) {f g : F}
    {s : Snapshot} (hf : origin.Instance contexts f) (hg : origin.Instance contexts g)
    (hs : ScalarFunction.snapshot f = .ok s) :
    (ScalarFunction.restore g s).answer = .ok () ∧ SameState f (ScalarFunction.restore g s).next := by
  rcases horigin with ⟨kind, hmath⟩ | hrestorable
  · obtain ⟨ctx, -, rfl⟩ := hf.exists_of_isMath hmath
    obtain ⟨ctx', -, rfl⟩ := hg.exists_of_isMath hmath
    rw [LawfulMath.restore]
    exact ⟨rfl, .renamed (MathFunction.validated kind ctx origin.types) _⟩
  · obtain ⟨hanswer, hnext⟩ := hrestorable f g s hf hg hs
    rw [hnext]
    exact ⟨hanswer, .refl f⟩

/-- Math functions whose contexts have one namespace come back with their names. -/
theorem restorable_of_isMath (horigin : origin.IsMath)
    (hcontexts : ∀ ctx ctx', contexts ctx → contexts ctx' → ctx.config.ns = ctx'.config.ns) :
    origin.Restorable contexts := by
  obtain ⟨kind, hmath⟩ := horigin
  intro f g s hf hg _
  obtain ⟨ctx, hctx, rfl⟩ := hf.exists_of_isMath hmath
  obtain ⟨ctx', hctx', rfl⟩ := hg.exists_of_isMath hmath
  rw [LawfulMath.restore]
  refine ⟨rfl, ?_⟩
  show HasMath.ofMath (MathFunction.validated kind ctx' origin.types) = _
  rw [MathFunction.validated, displayName_eq_of_ns (hcontexts ctx' ctx hctx' hctx)]
  rfl

end Math

end Origin

end StreamScalar
