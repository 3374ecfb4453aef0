import StreamScalar.Proofs.CallSite.Run
import StreamScalar.Proofs.Function.Math
import StreamScalar.Registry

/-!
# Names in messages

A math function keeps the name that its context gave it, and uses it in messages only. So two
functions that differ in that name alone are in the same state: `SameState`. The same holds in any
type of functions among which the math functions behave as they do by themselves: `LawfulMath`.

* `CallSite.run_ofMath` : nothing that a host does at a call site changes a math function.
* `CallSite.run_sameSite` : functions in the same state answer the same, names in messages aside,
  whatever is called in whatever order.
-/

namespace StreamScalar

/-- The math functions in a larger type of functions behave as they do by themselves. -/
class LawfulMath (F : Type) [ScalarFunction F] [HasMath F] : Prop where
  validate (f : MathFunction) (arguments : List Argument) (ctx : AppContext) :
    ScalarFunction.validate (HasMath.ofMath f : F) arguments ctx =
      (ScalarFunction.validate f arguments ctx).lift HasMath.ofMath
  execute (f : MathFunction) (data : Row) :
    ScalarFunction.execute (HasMath.ofMath f : F) data =
      (ScalarFunction.execute f data).lift HasMath.ofMath
  start (f : MathFunction) :
    ScalarFunction.start (HasMath.ofMath f : F) = HasMath.ofMath (ScalarFunction.start f)
  stop (f : MathFunction) :
    ScalarFunction.stop (HasMath.ofMath f : F) = HasMath.ofMath (ScalarFunction.stop f)
  snapshot (f : MathFunction) :
    ScalarFunction.snapshot (HasMath.ofMath f : F) = ScalarFunction.snapshot f
  restore (f : MathFunction) (s : Snapshot) :
    ScalarFunction.restore (HasMath.ofMath f : F) s =
      (ScalarFunction.restore f s).lift HasMath.ofMath

instance : LawfulMath MathFunction :=
  ⟨fun _ _ _ => rfl, fun _ _ => rfl, fun _ => rfl, fun _ => rfl, fun _ => rfl, fun _ _ => rfl⟩

/-! ## Messages without names -/

def ExecutionError.unnamed : ExecutionError → ExecutionError
  | nullArgument _ position => .nullArgument "" position
  | undefinedDomain _ reason => .undefinedDomain "" reason
  | unsupportedValue _ position found => .unsupportedValue "" position found
  | invalidState _ operation state => .invalidState "" operation state

def CallSite.Answer.unnamed : CallSite.Answer → CallSite.Answer
  | done result => .done (result.mapError ExecutionError.unnamed)
  | value result => .value (result.mapError ExecutionError.unnamed)
  | captured result => .captured result
  | restored result => .restored result

/-- The same state: equal, or of math functions that differ in their name in messages. -/
inductive SameState {F : Type} [HasMath F] : F → F → Prop
  | refl (f : F) : SameState f f
  | renamed (f : MathFunction) (name : String) :
      SameState (HasMath.ofMath f) (HasMath.ofMath { f with displayName := name })

namespace MathFunction

theorem numericArgument_unnamed (name name' : String) (data : Row) (position : Nat)
    (declared : AttributeType) :
    (numericArgument name data position declared).mapError ExecutionError.unnamed =
      (numericArgument name' data position declared).mapError ExecutionError.unnamed := by
  unfold numericArgument
  cases coerceToDouble (data[position]?).join declared with
  | ok x => rfl
  | error e => cases e <;> rfl

theorem logarithm_unnamed (name name' : String) (number base : Binary64) :
    (logarithm name number base).mapError ExecutionError.unnamed =
      (logarithm name' number base).mapError ExecutionError.unnamed := by
  unfold logarithm
  by_cases hbase : base.equals .one <;> simp [hbase, Except.mapError, ExecutionError.unnamed]

theorem bind_unnamed {α β : Type} {x x' : Except ExecutionError α}
    {f f' : α → Except ExecutionError β}
    (hx : x.mapError ExecutionError.unnamed = x'.mapError ExecutionError.unnamed)
    (hf : ∀ a, (f a).mapError ExecutionError.unnamed = (f' a).mapError ExecutionError.unnamed) :
    (x >>= f).mapError ExecutionError.unnamed = (x' >>= f').mapError ExecutionError.unnamed := by
  cases x with
  | error e =>
    cases x' with
    | error e' => exact congrArg Except.error (Except.error.inj hx)
    | ok a' => cases hx
  | ok a =>
    cases x' with
    | error e' => cases hx
    | ok a' =>
      cases hx
      exact hf a

theorem evaluate_unnamed (f : MathFunction) (name : String) (types : List AttributeType)
    (data : Row) :
    (evaluate { f with displayName := name } types data).mapError ExecutionError.unnamed =
      (f.evaluate types data).mapError ExecutionError.unnamed := by
  have hargument := fun position declared =>
    numericArgument_unnamed name f.displayName data position declared
  obtain ⟨kind, displayName, signature⟩ := f
  cases kind with
  | log =>
    refine bind_unnamed (hargument 0 _) fun number => ?_
    refine bind_unnamed (hargument 1 _) fun base => ?_
    exact logarithm_unnamed name displayName number base
  | round => exact bind_unnamed (hargument 0 _) fun x => rfl
  | sinh => exact bind_unnamed (hargument 0 _) fun x => rfl

theorem execute_unnamed (f : MathFunction) (name : String) (data : Row) :
    (execute { f with displayName := name } data).mapError ExecutionError.unnamed =
      (f.execute data).mapError ExecutionError.unnamed := by
  unfold execute
  cases f.signature with
  | none => rfl
  | some types => exact evaluate_unnamed f name types data

end MathFunction

/-! ## Math functions at call sites -/

namespace CallSite

variable {F : Type} [ScalarFunction F] [HasMath F] [LawfulMath F] {f : MathFunction}
  {site : CallSite F}

theorem function_of_compile {arguments : List Argument} {ctx : AppContext}
    (h : (compile (HasMath.ofMath f : F) arguments ctx).answer = .ok site) :
    site.function =
      HasMath.ofMath (.validated f.kind ctx (arguments.map Argument.declaredType)) := by
  obtain ⟨hvalid, hsite⟩ := compile_eq_ok_iff.mp h
  rw [LawfulMath.validate] at hvalid
  obtain ⟨-, hnext⟩ := MathFunction.validate_next hvalid
  rw [hsite, LawfulMath.validate]
  exact congrArg HasMath.ofMath hnext

theorem perform_ofMath (h : site.function = HasMath.ofMath f) (call : Call) :
    (site.perform call).next.function = HasMath.ofMath f := by
  apply perform_function_preserves (P := fun g : F => g = HasMath.ofMath f) _ _ _ _ h
  · rintro _ rfl
    exact LawfulMath.start f
  · rintro _ rfl
    exact LawfulMath.stop f
  · rintro _ data rfl
    rw [LawfulMath.execute]
    rfl
  · rintro _ s rfl
    rw [LawfulMath.restore]
    rfl

theorem run_ofMath (h : site.function = HasMath.ofMath f) (calls : List Call) :
    (site.run calls).next.function = HasMath.ofMath f :=
  run_preserves (P := fun current => current.function = HasMath.ofMath f)
    (fun _ call hcurrent => perform_ofMath hcurrent call) h calls

end CallSite

/-! ## Runs -/

section Runs

variable {F : Type} [ScalarFunction F] [HasMath F] [LawfulMath F] {f g : F}

theorem SameState.start (h : SameState f g) :
    SameState (ScalarFunction.start f) (ScalarFunction.start g) := by
  cases h with
  | refl => exact .refl _
  | renamed f name =>
    rw [LawfulMath.start, LawfulMath.start]
    exact .renamed f name

theorem SameState.stop (h : SameState f g) :
    SameState (ScalarFunction.stop f) (ScalarFunction.stop g) := by
  cases h with
  | refl => exact .refl _
  | renamed f name =>
    rw [LawfulMath.stop, LawfulMath.stop]
    exact .renamed f name

theorem SameState.execute (h : SameState f g) (data : Row) :
    SameState (ScalarFunction.execute f data).next (ScalarFunction.execute g data).next ∧
      (ScalarFunction.execute f data).answer.mapError ExecutionError.unnamed =
        (ScalarFunction.execute g data).answer.mapError ExecutionError.unnamed := by
  cases h with
  | refl => exact ⟨.refl _, rfl⟩
  | renamed f name =>
    rw [LawfulMath.execute, LawfulMath.execute]
    exact ⟨.renamed f name, (MathFunction.execute_unnamed f name data).symm⟩

theorem SameState.restore (h : SameState f g) (s : Snapshot) :
    SameState (ScalarFunction.restore f s).next (ScalarFunction.restore g s).next ∧
      (ScalarFunction.restore f s).answer = (ScalarFunction.restore g s).answer := by
  cases h with
  | refl => exact ⟨.refl _, rfl⟩
  | renamed f name =>
    rw [LawfulMath.restore, LawfulMath.restore]
    exact ⟨.renamed f name, rfl⟩

theorem SameState.snapshot (h : SameState f g) :
    ScalarFunction.snapshot f = ScalarFunction.snapshot g := by
  cases h with
  | refl => rfl
  | renamed f name =>
    rw [LawfulMath.snapshot, LawfulMath.snapshot]
    rfl

namespace CallSite

/-- Call sites at the same position, with the same arguments and functions in the same state. -/
def SameSite (a b : CallSite F) : Prop :=
  SameState a.function b.function ∧ a.arguments = b.arguments ∧ a.state = b.state

theorem start_sameSite {a b : CallSite F} (h : SameSite a b) :
    SameSite a.start.next b.start.next ∧
      a.start.answer.mapError ExecutionError.unnamed =
        b.start.answer.mapError ExecutionError.unnamed := by
  obtain ⟨hfunction, harguments, hstate⟩ := h
  by_cases hposition : a.state = .validated
  · rw [start_of_validated hposition, start_of_validated (hstate ▸ hposition)]
    exact ⟨⟨hfunction.start, harguments, rfl⟩, rfl⟩
  · rw [start_of_ne hposition, start_of_ne (hstate ▸ hposition)]
    refine ⟨⟨hfunction, harguments, hstate⟩, ?_⟩
    simp only [refuse, Except.mapError, ExecutionError.unnamed, hstate]

theorem stop_sameSite {a b : CallSite F} (h : SameSite a b) :
    SameSite a.stop.next b.stop.next ∧
      a.stop.answer.mapError ExecutionError.unnamed =
        b.stop.answer.mapError ExecutionError.unnamed := by
  obtain ⟨hfunction, harguments, hstate⟩ := h
  by_cases hposition : a.state = .stopped
  · rw [stop_of_stopped hposition, stop_of_stopped (hstate ▸ hposition)]
    refine ⟨⟨hfunction, harguments, hstate⟩, ?_⟩
    simp only [refuse, Except.mapError, ExecutionError.unnamed, hstate]
  · rw [stop_of_ne hposition, stop_of_ne (hstate ▸ hposition)]
    exact ⟨⟨hfunction.stop, harguments, rfl⟩, rfl⟩

theorem execute_sameSite {a b : CallSite F} (h : SameSite a b) (data : Row) :
    SameSite (a.execute data).next (b.execute data).next ∧
      (a.execute data).answer.mapError ExecutionError.unnamed =
        (b.execute data).answer.mapError ExecutionError.unnamed := by
  obtain ⟨hfunction, harguments, hstate⟩ := h
  by_cases hposition : a.state = .started
  · have hposition' : b.state = .started := hstate ▸ hposition
    obtain ⟨hnext, hanswer⟩ := hfunction.execute data
    rw [execute_of_started_next hposition, execute_of_started_next hposition',
      execute_of_started_answer hposition, execute_of_started_answer hposition']
    exact ⟨⟨hnext, harguments, hstate⟩, hanswer⟩
  · rw [execute_of_ne hposition, execute_of_ne (hstate ▸ hposition)]
    refine ⟨⟨hfunction, harguments, hstate⟩, ?_⟩
    simp only [refuse, Except.mapError, ExecutionError.unnamed, hstate]

theorem perform_sameSite {a b : CallSite F} (h : SameSite a b) (call : Call) :
    SameSite (a.perform call).next (b.perform call).next ∧
      (a.perform call).answer.unnamed = (b.perform call).answer.unnamed := by
  cases call with
  | start =>
    obtain ⟨hnext, hanswer⟩ := start_sameSite h
    exact ⟨hnext, congrArg Answer.done hanswer⟩
  | stop =>
    obtain ⟨hnext, hanswer⟩ := stop_sameSite h
    exact ⟨hnext, congrArg Answer.done hanswer⟩
  | execute data =>
    obtain ⟨hnext, hanswer⟩ := execute_sameSite h data
    exact ⟨hnext, congrArg Answer.value hanswer⟩
  | process event =>
    show SameSite (a.process event).next (b.process event).next ∧
      Answer.value ((a.process event).answer.mapError _) =
        Answer.value ((b.process event).answer.mapError _)
    rw [process, process, h.2.1]
    obtain ⟨hnext, hanswer⟩ := execute_sameSite h (b.arguments.map (·.evaluate event))
    exact ⟨hnext, congrArg Answer.value hanswer⟩
  | serializeState => exact ⟨h, congrArg Answer.captured h.1.snapshot⟩
  | deserializeState s =>
    obtain ⟨hnext, hanswer⟩ := h.1.restore s
    exact ⟨⟨hnext, h.2⟩, congrArg Answer.restored hanswer⟩

/-- Call sites in the same state answer the same, names in messages aside. -/
theorem run_sameSite {a b : CallSite F} (h : SameSite a b) (calls : List Call) :
    (a.run calls).answer.map (fun entry => entry.2.unnamed) =
      (b.run calls).answer.map fun entry => entry.2.unnamed := by
  induction calls generalizing a b with
  | nil => rfl
  | cons call rest ih =>
    obtain ⟨hnext, hanswer⟩ := perform_sameSite h call
    rw [run, run, List.map_cons, List.map_cons, ih hnext, hanswer]

end CallSite

end Runs

end StreamScalar
