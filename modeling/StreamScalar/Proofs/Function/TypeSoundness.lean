import StreamScalar.Proofs.Function.Math

/-!
# Type soundness of the math functions

A compiled call site of `log`, `round` or `sinh` has the return type that its kind gives to the
declared types of its arguments, at every point of every run, and all that it ever answers with
success has that type (`attributeType_of_perform`). If an event holds what the arguments declare,
the started call site does not fail on types: `Settled` lists what is left.

* `typeSound_of_compile` : the three together.
-/

namespace StreamScalar

namespace MathFunction

open CallSite (Call Answer)

variable {kind : Kind} {arguments : List Argument} {ctx : AppContext} {event : Option Event}

/-! ## The type of a result -/

theorem attributeType_of_logarithm {function : String} {number base : Binary64} {v : Value}
    (h : logarithm function number base = .ok v) : v.attributeType = .double := by
  rw [logarithm] at h
  split at h
  · cases h
  · cases h
    rfl

theorem attributeType_rounded (types : List AttributeType) (x : Binary64) :
    (rounded (Kind.round.returnType types) x).attributeType = Kind.round.returnType types := by
  cases types with
  | nil => rfl
  | cons type types => cases type <;> rfl

theorem attributeType_of_evaluate {f : MathFunction} {types : List AttributeType} {data : Row}
    {v : Value} (h : f.evaluate types data = .ok v) :
    v.attributeType = f.kind.returnType types := by
  obtain ⟨kind, displayName, signature⟩ := f
  simp only [evaluate, bind, Except.bind] at h
  cases kind with
  | log =>
    dsimp only at h
    split at h
    · cases h
    · split at h
      · cases h
      · exact attributeType_of_logarithm h
  | round =>
    dsimp only at h
    split at h
    · cases h
    · cases h
      exact attributeType_rounded types _
  | sinh =>
    dsimp only at h
    split at h
    · cases h
    · cases h
      rfl

theorem attributeType_of_execute {site : CallSite MathFunction} {types : List AttributeType}
    (hfunction : site.function = validated kind ctx types) {data : Row} {v : Value}
    (h : (site.execute data).answer = .ok v) : v.attributeType = kind.returnType types := by
  by_cases hstate : site.state = .started
  · rw [CallSite.execute_of_started_answer hstate, hfunction] at h
    exact attributeType_of_evaluate h
  · rw [CallSite.execute_of_ne hstate] at h
    cases h

/-! ## Arguments of the declared types -/

/-- What an event holds where a variable argument reads it is absent or of the declared type. -/
def Conforms (event : Option Event) (arguments : List Argument) : Prop :=
  ∀ position type, .attributeAt position type ∈ arguments →
    ∀ e ∈ event, ∀ v ∈ e.get? position, v.attributeType = type

theorem attributeType_of_evaluate_argument (hconforms : Conforms event arguments)
    {argument : Argument} (hmem : argument ∈ arguments) {v : Value}
    (h : argument.evaluate event = some v) : v.attributeType = argument.declaredType := by
  cases argument with
  | constant value =>
    cases h
    rfl
  | absent type => cases h
  | attributeAt position type =>
    obtain ⟨e, he, hv⟩ := Option.bind_eq_some_iff.mp h
    exact hconforms position type hmem e he v hv

theorem exists_asNumber? {v : Value} (h : v.attributeType ∈ AttributeType.numeric) :
    ∃ n, v.asNumber? = some n := by
  cases v with
  | int n => exact ⟨.int n, rfl⟩
  | long n => exact ⟨.long n, rfl⟩
  | float x => exact ⟨.float x, rfl⟩
  | double x => exact ⟨.double x, rfl⟩
  | bool b => simp [Value.attributeType, AttributeType.numeric] at h
  | string s => simp [Value.attributeType, AttributeType.numeric] at h

theorem numericArgument_evaluate (function : String) (hconforms : Conforms event arguments)
    (position : Nat) {argument : Argument} (hat : arguments[position]? = some argument)
    (hnumeric : argument.declaredType ∈ AttributeType.numeric) :
    (argument.evaluate event = none ∧
      numericArgument function (arguments.map (·.evaluate event)) position argument.declaredType =
        .error (.nullArgument function position)) ∨
    ∃ v n, argument.evaluate event = some v ∧ v.asNumber? = some n ∧
      numericArgument function (arguments.map (·.evaluate event)) position argument.declaredType =
        .ok n.toBinary64 := by
  have hdeclared : argument.declaredType.isNumeric = true :=
    (AttributeType.isNumeric_iff_mem_numeric _).mpr hnumeric
  have hread : ((arguments.map (·.evaluate event))[position]?).join = argument.evaluate event := by
    rw [List.getElem?_map, hat]
    rfl
  cases hvalue : argument.evaluate event with
  | none => exact Or.inl ⟨rfl, numericArgument_absent hdeclared (hread.trans hvalue)⟩
  | some v =>
    have htype := attributeType_of_evaluate_argument hconforms (List.mem_of_getElem? hat) hvalue
    obtain ⟨n, hn⟩ := exists_asNumber? (htype ▸ hnumeric)
    exact Or.inr ⟨v, n, rfl, hn, numericArgument_number hdeclared (hread.trans hvalue) hn⟩

/-! ## What a started call site answers to such an event -/

/-- The answers to an event that conforms: a result of the return type if every argument is there,
the first argument that is not, or a logarithm to base one. -/
inductive Settled (kind : Kind) (function : String) (arguments : List Argument)
    (event : Option Event) : Except ExecutionError Value → Prop
  | ok {v : Value} : (∀ argument ∈ arguments, argument.evaluate event ≠ none) →
      v.attributeType = kind.returnType (arguments.map Argument.declaredType) →
      Settled kind function arguments event (.ok v)
  | nullArgument {position : Nat} {argument : Argument} : arguments[position]? = some argument →
      argument.evaluate event = none →
      (∀ earlier ∈ arguments.take position, earlier.evaluate event ≠ none) →
      Settled kind function arguments event (.error (.nullArgument function position))
  | undefinedDomain {number base : Value} {n b : Number} {reason : String} : kind = .log →
      arguments.map (·.evaluate event) = [some number, some base] → number.asNumber? = some n →
      base.asNumber? = some b → b.toBinary64.equals .one = true →
      Settled kind function arguments event (.error (.undefinedDomain function reason))

theorem exists_of_accepts_one {accepted : List AttributeType}
    (h : List.Forall₂ (fun type accepted => type ∈ accepted)
      (arguments.map Argument.declaredType) [accepted]) :
    ∃ a, arguments = [a] ∧ a.declaredType ∈ accepted := by
  match arguments, h with
  | [a], .cons ha .nil => exact ⟨a, rfl, ha⟩

theorem exists_of_accepts_two {accepted accepted' : List AttributeType}
    (h : List.Forall₂ (fun type accepted => type ∈ accepted)
      (arguments.map Argument.declaredType) [accepted, accepted']) :
    ∃ a b, arguments = [a, b] ∧ a.declaredType ∈ accepted ∧ b.declaredType ∈ accepted' := by
  match arguments, h with
  | [a, b], .cons ha (.cons hb .nil) => exact ⟨a, b, rfl, ha, hb⟩

theorem settled_one {argument : Argument} (function : String) (hconforms : Conforms event [argument])
    (hnumeric : argument.declaredType ∈ AttributeType.numeric) {result : Binary64 → Value}
    (hresult : ∀ x, (result x).attributeType = kind.returnType [argument.declaredType]) :
    Settled kind function [argument] event (do
      let x ← numericArgument function ([argument].map (·.evaluate event)) 0 argument.declaredType
      return result x) := by
  rcases numericArgument_evaluate function hconforms 0 rfl hnumeric with
    ⟨habsent, hread⟩ | ⟨v, n, hv, hn, hread⟩
  · rw [hread]
    exact .nullArgument rfl habsent (by simp)
  · rw [hread]
    exact .ok (by simp [hv]) (hresult _)

theorem settled_log {number base : Argument} (function : String)
    (hconforms : Conforms event [number, base])
    (hnumber : number.declaredType ∈ AttributeType.numeric)
    (hbase : base.declaredType ∈ AttributeType.numeric) :
    Settled .log function [number, base] event (do
      let n ← numericArgument function ([number, base].map (·.evaluate event)) 0 number.declaredType
      let b ← numericArgument function ([number, base].map (·.evaluate event)) 1 base.declaredType
      logarithm function n b) := by
  rcases numericArgument_evaluate function hconforms 0 rfl hnumber with
    ⟨habsent, hread⟩ | ⟨v, n, hv, hn, hread⟩
  · rw [hread]
    exact .nullArgument rfl habsent (by simp)
  rcases numericArgument_evaluate function hconforms 1 rfl hbase with
    ⟨habsent, hread'⟩ | ⟨w, b, hw, hb, hread'⟩
  · rw [hread, hread']
    exact .nullArgument rfl habsent (by simp [hv])
  · rw [hread, hread']
    show Settled .log function [number, base] event (logarithm function n.toBinary64 b.toBinary64)
    rw [logarithm]
    split
    · next hone => exact .undefinedDomain rfl (by simp [hv, hw]) hn hb hone
    · exact .ok (by simp [hv, hw]) rfl

theorem settled_execute (hconforms : Conforms event arguments)
    (haccepts : Accepts kind (arguments.map Argument.declaredType)) :
    Settled kind (StreamScalar.displayName ctx kind.name) arguments event
      ((validated kind ctx (arguments.map Argument.declaredType)).execute
        (arguments.map (·.evaluate event))) := by
  cases kind with
  | log =>
    obtain ⟨number, base, rfl, hnumber, hbase⟩ := exists_of_accepts_two haccepts
    exact settled_log _ hconforms hnumber hbase
  | round =>
    obtain ⟨argument, rfl, hfloating⟩ := exists_of_accepts_one haccepts
    exact settled_one _ hconforms (mem_numeric_of_mem_floating hfloating)
      (attributeType_rounded [argument.declaredType])
  | sinh =>
    obtain ⟨argument, rfl, hnumeric⟩ := exists_of_accepts_one haccepts
    exact settled_one _ hconforms hnumeric (fun _ => rfl)

/-! ## Every run of a compiled call site -/

theorem returnType_validated (types : List AttributeType) :
    (validated kind ctx types).returnType = kind.returnType types := by
  cases kind <;> rfl

theorem attributeType_of_perform {site : CallSite MathFunction} {types : List AttributeType}
    (hfunction : site.function = validated kind ctx types) {call : Call} {v : Value}
    (h : (site.perform call).answer = .value (.ok v)) : v.attributeType = kind.returnType types := by
  cases call with
  | execute data => exact attributeType_of_execute hfunction (Answer.value.inj h)
  | process event => exact attributeType_of_execute hfunction (Answer.value.inj h)
  | start => cases h
  | stop => cases h
  | serializeState => cases h
  | deserializeState snapshot => cases h

/-- **Type soundness.** The return type of a compiled call site is fixed by the declared types of
its arguments, every result on every run has it, and an event that conforms to the arguments is
settled. -/
theorem typeSound_of_compile {site : CallSite MathFunction}
    (h : (CallSite.compile (create kind) arguments ctx).answer = .ok site) :
    (∀ calls, (site.run calls).next.returnType =
        kind.returnType (arguments.map Argument.declaredType)) ∧
      (∀ calls, ∀ entry ∈ (site.run calls).answer, ∀ v, entry.2 = .value (.ok v) →
        v.attributeType = kind.returnType (arguments.map Argument.declaredType)) ∧
      ∀ calls event, (site.run calls).next.state = .started → Conforms event arguments →
        Settled kind (StreamScalar.displayName ctx kind.name) arguments event
          ((site.run calls).next.process event).answer := by
  obtain ⟨haccepts, rfl⟩ := compile_create_eq_ok_iff.mp h
  refine ⟨fun calls => ?_, fun calls => ?_, fun calls event hstate hconforms => ?_⟩
  · rw [CallSite.returnType, run_function]
    exact returnType_validated _
  · exact CallSite.run_answers
      (P := fun site => site.function = validated kind ctx (arguments.map Argument.declaredType))
      (Q := fun _ answer => ∀ v, answer = .value (.ok v) →
        v.attributeType = kind.returnType (arguments.map Argument.declaredType))
      (fun site call hfunction => (perform_function site call).trans hfunction)
      (fun site call hfunction v hanswer => attributeType_of_perform hfunction hanswer) rfl calls
  · rw [CallSite.process, CallSite.execute_of_started_answer hstate, run_function,
      CallSite.run_arguments]
    exact settled_execute hconforms haccepts

/-- A logarithm whose base is a constant without a value, and an event whose other attribute is none
of its business. -/
theorem typeSound_of_compile_log :
    let arguments : List Argument := [.attributeAt 1 .long, .absent .double]
    let event : Option Event := some ⟨0, [some (.string "x"), some (.long 8)]⟩
    let site : CallSite MathFunction :=
      ⟨validated .log {} [.long, .double], arguments, ({} : ExtensionConfig).qualify "log", .validated⟩
    (CallSite.compile (create .log) arguments {}).answer = .ok site ∧
      (site.run [.start]).next.state = .started ∧ Conforms event arguments ∧
      (site.run [.start]).next.returnType = .double ∧
      Settled .log (StreamScalar.displayName {} "log") arguments event
        ((site.run [.start]).next.process event).answer := by
  intro arguments event site
  have hcompiled : (CallSite.compile (create .log) arguments {}).answer = .ok site := rfl
  have hconforms : Conforms event arguments := by
    intro position type hmem e he v hv
    obtain ⟨rfl, rfl⟩ : position = 1 ∧ type = .long := by simpa [arguments] using hmem
    obtain rfl := Option.mem_some_iff.mp (show e ∈ some _ from he)
    cases hv
    rfl
  obtain ⟨htype, -, hsettled⟩ := typeSound_of_compile hcompiled
  exact ⟨hcompiled, rfl, hconforms, htype [.start], hsettled [.start] event rfl hconforms⟩

end MathFunction

end StreamScalar
