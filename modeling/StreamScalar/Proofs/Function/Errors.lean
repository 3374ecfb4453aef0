import StreamScalar.Proofs.Function.Math

/-!
# What the errors of the math functions say

An error that a math function answers names the function as the context of its last validation has
it. A function that has a signature is never in a wrong state: it lacks an argument, cannot read one,
or has no result.

* `execute_eq_invalidState_iff` : only the missing signature is answered as a wrong state.
* `function_of_execute`, `function_of_validate` : which function an error names.
-/

namespace StreamScalar

def ExecutionError.function : ExecutionError → String
  | nullArgument function _ => function
  | undefinedDomain function _ => function
  | unsupportedValue function _ _ => function
  | invalidState function _ _ => function

def ValidationError.function : ValidationError → String
  | arityMismatch function _ _ => function
  | typeMismatch function _ _ _ => function

/-- The error of a function that has a signature: it is about an argument or about the result. -/
inductive ExecutionError.OnEvent (function : String) : ExecutionError → Prop
  | nullArgument (position : Nat) : OnEvent function (.nullArgument function position)
  | unsupportedValue (position : Nat) (found : AttributeType) :
      OnEvent function (.unsupportedValue function position found)
  | undefinedDomain (reason : String) : OnEvent function (.undefinedDomain function reason)

theorem ExecutionError.OnEvent.function_eq {function : String} {e : ExecutionError}
    (h : e.OnEvent function) : e.function = function := by
  cases h <;> rfl

theorem ExecutionError.OnEvent.ne_invalidState {function name : String} {e : ExecutionError}
    {operation : Operation} {state : Lifecycle} (h : e.OnEvent function) :
    e ≠ .invalidState name operation state := by
  cases h <;> simp

namespace MathFunction

open ExecutionError (OnEvent)

theorem onEvent_of_numericArgument {function : String} {data : Row} {position : Nat}
    {declared : AttributeType} {e : ExecutionError}
    (h : numericArgument function data position declared = .error e) : e.OnEvent function := by
  unfold numericArgument at h
  split at h
  · cases h
  · cases h
    exact .nullArgument position
  · cases h
    exact .unsupportedValue position _
  · cases h
    exact .unsupportedValue position _

theorem onEvent_of_logarithm {function : String} {number base : Binary64} {e : ExecutionError}
    (h : logarithm function number base = .error e) : e.OnEvent function := by
  unfold logarithm at h
  split at h
  · cases h
    exact .undefinedDomain _
  · cases h

theorem onEvent_bind {α : Type} {function : String} {x : Except ExecutionError α}
    {f : α → Except ExecutionError Value} {e : ExecutionError}
    (hx : ∀ e, x = .error e → e.OnEvent function)
    (hf : ∀ a e, f a = .error e → e.OnEvent function) (h : x >>= f = .error e) :
    e.OnEvent function := by
  cases x with
  | error e' =>
    cases h
    exact hx e rfl
  | ok a => exact hf a e h

theorem onEvent_of_evaluate {f : MathFunction} {types : List AttributeType} {data : Row}
    {e : ExecutionError} (h : f.evaluate types data = .error e) : e.OnEvent f.displayName := by
  obtain ⟨kind, displayName, signature⟩ := f
  have hargument : ∀ position declared e,
      numericArgument displayName data position declared = .error e → e.OnEvent displayName :=
    fun _ _ _ => onEvent_of_numericArgument
  cases kind with
  | log =>
    apply onEvent_bind (hargument 0 _) _ h
    intro number e h
    apply onEvent_bind (hargument 1 _) _ h
    intro base e h
    exact onEvent_of_logarithm h
  | round =>
    apply onEvent_bind (hargument 0 _) _ h
    intro x e h
    cases h
  | sinh =>
    apply onEvent_bind (hargument 0 _) _ h
    intro x e h
    cases h

theorem onEvent_of_execute {f : MathFunction} {types : List AttributeType} {data : Row}
    {e : ExecutionError} (hsignature : f.signature = some types)
    (h : f.execute data = .error e) : e.OnEvent f.displayName := by
  unfold execute at h
  rw [hsignature] at h
  exact onEvent_of_evaluate h

/-- A math function is in a wrong state for an event only as long as it has no signature. -/
theorem execute_eq_invalidState_iff {f : MathFunction} {data : Row} {name : String}
    {operation : Operation} {state : Lifecycle} :
    f.execute data = .error (.invalidState name operation state) ↔
      f.signature = none ∧ name = f.displayName ∧ operation = .execute ∧ state = .created := by
  cases hsignature : f.signature with
  | none =>
    unfold execute
    simp only [hsignature, notValidated, Except.error.injEq, ExecutionError.invalidState.injEq,
      true_and]
    constructor
    · rintro ⟨rfl, rfl, rfl⟩
      exact ⟨rfl, rfl, rfl⟩
    · rintro ⟨rfl, rfl, rfl⟩
      exact ⟨rfl, rfl, rfl⟩
  | some types =>
    constructor
    · intro h
      exact absurd rfl (onEvent_of_execute hsignature h).ne_invalidState
    · rintro ⟨hnone, -⟩
      cases hnone

theorem function_of_execute {f : MathFunction} {data : Row} {e : ExecutionError}
    (h : f.execute data = .error e) : e.function = f.displayName := by
  cases hsignature : f.signature with
  | none =>
    unfold execute at h
    rw [hsignature] at h
    cases h
    rfl
  | some types => exact (onEvent_of_execute hsignature h).function_eq

/-- The name of the context counts for the errors of the very validation that brings it. -/
theorem function_of_validate {f : MathFunction} {arguments : List Argument} {ctx : AppContext}
    {e : ValidationError} (h : (f.validate arguments ctx).answer = .error e) :
    e.function = StreamScalar.displayName ctx f.kind.name := by
  rw [validate_answer] at h
  cases hchecked :
      checkSignature (StreamScalar.displayName ctx f.kind.name) arguments f.kind.parameters with
  | ok types =>
    rw [hchecked] at h
    cases h
  | error e' =>
    rw [hchecked] at h
    cases h
    rcases exists_of_checkSignature_eq_error hchecked with ⟨-, rfl⟩ | ⟨-, i, -, -, -, rfl, -⟩
    · rfl
    · rfl

end MathFunction

end StreamScalar
