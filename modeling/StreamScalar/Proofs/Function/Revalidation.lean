import StreamScalar.Proofs.CallSite.Contract
import StreamScalar.Proofs.Function.Errors
import StreamScalar.Proofs.Function.Naming

/-!
# Math functions that are validated again

A function that has no call site may be validated any number of times, between any other requests.
What a math function is then can be read off the history of its answers: it goes by the context of
the last validation, whether that has succeeded or not, and keeps the signature of the last one that
has succeeded. So a validation that fails mixes the name of one context with the signature of
another, and nothing but a validation changes either (`Remembers.perform`).

* `keepsSignature_run` : what is answered after every sequence of requests.
-/

namespace StreamScalar

namespace Bare

/-- What is asked of a function that has no call site. -/
inductive Request where
  | call (c : FunctionCall)
  | snapshot
  | returnType

inductive Answer where
  | validated (result : Except ValidationError Unit)
  | value (result : Except ExecutionError Value)
  | restored (result : Except StateError Unit)
  | captured (result : Except StateError Snapshot)
  | type (type : AttributeType)
  | done

/-- Requests beside their answers, the first one first. -/
abbrev History := List (Request × Answer)

section Runs

variable {F : Type} [ScalarFunction F]

def perform (f : F) : Request → Step F Answer
  | .call (.validate arguments ctx) => (ScalarFunction.validate f arguments ctx).map .validated
  | .call .start => { answer := .done, next := ScalarFunction.start f }
  | .call .stop => { answer := .done, next := ScalarFunction.stop f }
  | .call (.execute data) => (ScalarFunction.execute f data).map .value
  | .call (.restore snapshot) => (ScalarFunction.restore f snapshot).map .restored
  | .snapshot => { answer := .captured (ScalarFunction.snapshot f), next := f }
  | .returnType => { answer := .type (ScalarFunction.returnType f), next := f }

def run (f : F) : List Request → Step F History
  | [] => { answer := [], next := f }
  | request :: rest =>
    let first := perform f request
    let later := run first.next rest
    { answer := (request, first.answer) :: later.answer
      next := later.next
      log := first.log ++ later.log }

end Runs

/-! ## What a history says -/

def context? : Request × Answer → Option AppContext
  | (.call (.validate _ ctx), _) => some ctx
  | _ => none

/-- The declared argument types of a validation that has succeeded. -/
def signature? : Request × Answer → Option (List AttributeType)
  | (.call (.validate arguments _), .validated (.ok ())) =>
    some (arguments.map Argument.declaredType)
  | _ => none

/-- The context of the last validation. -/
def lastContext? (history : History) : Option AppContext :=
  (history.filterMap context?).getLast?

/-- The declared argument types of the last validation that has succeeded. -/
def lastSignature? (history : History) : Option (List AttributeType) :=
  (history.filterMap signature?).getLast?

theorem lastContext?_concat (history : History) (entry : Request × Answer) :
    lastContext? (history ++ [entry]) = (context? entry).or (lastContext? history) := by
  unfold lastContext?
  cases h : context? entry <;> simp [List.filterMap_append, h]

theorem lastSignature?_concat (history : History) (entry : Request × Answer) :
    lastSignature? (history ++ [entry]) = (signature? entry).or (lastSignature? history) := by
  unfold lastSignature?
  cases h : signature? entry <;> simp [List.filterMap_append, h]

open MathFunction (Kind Accepts create validate_create_next validate_answer execute_unnamed
  execute_eq_invalidState_iff function_of_execute function_of_validate)

theorem signature?_eq_some_iff {entry : Request × Answer} {types : List AttributeType} :
    signature? entry = some types ↔ ∃ arguments ctx,
      entry = (.call (.validate arguments ctx), .validated (.ok ())) ∧
        arguments.map Argument.declaredType = types := by
  unfold signature?
  split
  · simp
  · next hother =>
    constructor
    · intro h
      cases h
    · rintro ⟨arguments, ctx, rfl, -⟩
      exact absurd rfl (hother arguments ctx)

theorem lastSignature?_eq_none_iff {history : History} :
    lastSignature? history = none ↔ ∀ arguments ctx,
      (Request.call (.validate arguments ctx), Answer.validated (.ok ())) ∉ history := by
  rw [lastSignature?, List.getLast?_eq_none_iff, List.filterMap_eq_nil_iff]
  constructor
  · intro h arguments ctx hmem
    cases h _ hmem
  · intro h entry hmem
    by_contra hsome
    obtain ⟨types, htypes⟩ := Option.ne_none_iff_exists'.mp hsome
    obtain ⟨arguments, ctx, rfl, -⟩ := signature?_eq_some_iff.mp htypes
    exact h arguments ctx hmem

/-- The name in messages after a history. -/
def nameAfter (kind : Kind) (history : History) : String :=
  displayName ((lastContext? history).getD {}) kind.name

/-! ## The state of a function and its history -/

/-- A function is what its history says, and its signature is one that it takes. -/
structure Remembers (kind : Kind) (history : History) (f : MathFunction) : Prop where
  eq : f = ⟨kind, nameAfter kind history, lastSignature? history⟩
  accepts : ∀ types, lastSignature? history = some types → Accepts kind types

variable {kind : Kind} {history : History} {f : MathFunction}

theorem remembers_create (kind : Kind) : Remembers kind [] (create kind) where
  eq := rfl
  accepts := by
    intro types h
    cases h

theorem Remembers.concat (h : Remembers kind history f) {entry : Request × Answer}
    (hcontext : context? entry = none) (hsignature : signature? entry = none) :
    Remembers kind (history ++ [entry]) f := by
  have hcontext' : lastContext? (history ++ [entry]) = lastContext? history := by
    simp [lastContext?_concat, hcontext]
  have hsignature' : lastSignature? (history ++ [entry]) = lastSignature? history := by
    simp [lastSignature?_concat, hsignature]
  constructor
  · rw [nameAfter, hcontext', hsignature']
    exact h.eq
  · rw [hsignature']
    exact h.accepts

theorem Remembers.validate (h : Remembers kind history f) (arguments : List Argument)
    (ctx : AppContext) :
    Remembers kind
      (history ++ [(.call (.validate arguments ctx), .validated (f.validate arguments ctx).answer)])
      (f.validate arguments ctx).next := by
  obtain rfl := h.eq
  -- the name is taken before anything is checked, the signature after everything is
  cases hchecked : checkSignature (displayName ctx kind.name) arguments kind.parameters with
  | ok types =>
    obtain ⟨rfl, haccepts⟩ := checkSignature_eq_ok_iff.mp hchecked
    constructor
    · simp only [nameAfter, lastContext?_concat, lastSignature?_concat, MathFunction.validate,
        hchecked, context?, signature?, Option.some_or, Option.getD_some]
    · intro types htypes
      simp only [lastSignature?_concat, MathFunction.validate, hchecked, signature?,
        Option.some_or, Option.some.injEq] at htypes
      exact htypes ▸ haccepts
  | error e =>
    constructor
    · simp only [nameAfter, lastContext?_concat, lastSignature?_concat, MathFunction.validate,
        hchecked, context?, signature?, Option.some_or, Option.none_or, Option.getD_some]
    · intro types htypes
      apply h.accepts types
      simpa only [lastSignature?_concat, MathFunction.validate, hchecked, signature?,
        Option.none_or] using htypes

theorem Remembers.perform (h : Remembers kind history f) (request : Request) :
    Remembers kind (history ++ [(request, (perform f request).answer)])
      (Bare.perform f request).next := by
  cases request with
  | snapshot => exact h.concat rfl rfl
  | returnType => exact h.concat rfl rfl
  | call c =>
    cases c with
    | validate arguments ctx => exact h.validate arguments ctx
    | start => exact h.concat rfl rfl
    | stop => exact h.concat rfl rfl
    | execute data => exact h.concat rfl rfl
    | restore snapshot => exact h.concat rfl rfl

theorem Remembers.run (h : Remembers kind history f) (requests : List Request) :
    Remembers kind (history ++ (run f requests).answer) (Bare.run f requests).next := by
  induction requests generalizing history f with
  | nil => simpa [Bare.run] using h
  | cons request rest ih =>
    have hrest := ih (h.perform request)
    rw [List.append_assoc] at hrest
    exact hrest

/-! ## What is answered -/

/-- What a math function answers after a history. -/
structure KeepsSignature (kind : Kind) (history : History) (f : MathFunction) : Prop where
  /-- An event is refused as long as no validation has succeeded, and only so long. -/
  refused_iff : ∀ data,
    (∃ name, f.execute data = .error (.invalidState name .execute .created)) ↔
      ∀ arguments ctx, (Request.call (.validate arguments ctx), Answer.validated (.ok ())) ∉ history
  /-- After that an event is answered, names aside, as by a fresh function that has been validated
  once and in any context, with arguments of the types of the last validation that succeeded. -/
  execute_eq : ∀ types, lastSignature? history = some types →
    ∀ arguments ctx, arguments.map Argument.declaredType = types →
      ((create kind).validate arguments ctx).answer = .ok () ∧
      ∀ data, (f.execute data).mapError ExecutionError.unnamed =
        (((create kind).validate arguments ctx).next.execute data).mapError ExecutionError.unnamed
  returnType_eq : ∀ types, lastSignature? history = some types →
    f.returnType = kind.returnType types
  returnType_unvalidated : lastSignature? history = none →
    f.returnType = if kind = .round then .object else .double
  /-- Errors go by the context of the last validation, whether it succeeded or not. -/
  execute_named : ∀ ctx, lastContext? history = some ctx → ∀ data e, f.execute data = .error e →
    e.function = ctx.config.ns ++ ":" ++ kind.name ++ "()"
  execute_unvalidated : lastContext? history = none → ∀ data e, f.execute data = .error e →
    e.function = "math:" ++ kind.name ++ "()"
  validate_eq : ∀ arguments ctx,
    (f.validate arguments ctx).answer = ((create kind).validate arguments ctx).answer
  /-- A validation is the last one for its own error. -/
  validate_named : ∀ arguments ctx e, (f.validate arguments ctx).answer = .error e →
    e.function = ctx.config.ns ++ ":" ++ kind.name ++ "()"

theorem Remembers.keepsSignature (h : Remembers kind history f) : KeepsSignature kind history f := by
  have hname : ∀ data e, f.execute data = .error e → e.function = nameAfter kind history := by
    intro data e he
    rw [function_of_execute he, h.eq]
  constructor
  case refused_iff =>
    intro data
    rw [← lastSignature?_eq_none_iff]
    simp only [execute_eq_invalidState_iff, and_true, exists_and_left, exists_eq, h.eq]
  case execute_eq =>
    rintro _ htypes arguments ctx rfl
    have haccepts := h.accepts _ htypes
    refine ⟨(MathFunction.validate_create kind arguments ctx).mpr haccepts, ?_⟩
    intro data
    have hfresh : ((create kind).validate arguments ctx).next =
        .validated kind ctx (arguments.map Argument.declaredType) := validate_create_next haccepts
    rw [hfresh, h.eq, htypes]
    exact execute_unnamed (.validated kind ctx _) (nameAfter kind history) data
  case returnType_eq =>
    intro types htypes
    rw [h.eq, htypes]
    cases kind <;> rfl
  case returnType_unvalidated =>
    intro hnone
    rw [h.eq, hnone]
    cases kind <;> rfl
  case execute_named =>
    intro ctx hctx data e he
    rw [hname data e he, nameAfter, hctx]
    rfl
  case execute_unvalidated =>
    intro hnone data e he
    rw [hname data e he, nameAfter, hnone]
    rfl
  case validate_eq =>
    intro arguments ctx
    rw [validate_answer, validate_answer, h.eq]
    rfl
  case validate_named =>
    intro arguments ctx e he
    rw [function_of_validate he, h.eq]
    rfl

/-- **The last validation that succeeded gives the signature, and the last one the name.** So it is
after every sequence of requests, whichever of the validations in it fail. -/
theorem keepsSignature_run (kind : Kind) (requests : List Request) :
    KeepsSignature kind (run (create kind) requests).answer (run (create kind) requests).next := by
  have h := (remembers_create kind).run requests
  rw [List.nil_append] at h
  exact h.keepsSignature

/-- The type of a rounded single stays when `m` fails to validate, and the name of `m` comes. -/
example :
    (run (create .round) [.call (.validate [.attributeAt 0 .float] {}),
      .call (.validate [] { config := { ns := "m" } }), .returnType,
      .call (.execute [none])]).answer.map (·.2) =
    [.validated (.ok ()), .validated (.error (.arityMismatch "m:round()" 1 0)), .type .int,
      .value (.error (.nullArgument "m:round()" 0))] := by
  rfl

end Bare

end StreamScalar
