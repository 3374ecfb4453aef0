import StreamScalar.Proofs.Coercion
import StreamScalar.Proofs.Function.Math

/-!
# What the math functions answer to an event

A validated function reads the argument values from the first on, stops at the first that is no
number, and reads none past its arity. On numbers only the logarithm to base one has no result.

* `Row.number` : reading one argument value, for which the declared type does not matter.
* `execute_outcomes` : which answer comes of which values.
-/

namespace StreamScalar

/-- The argument value at a position, absent past the end. -/
def Row.argument (data : Row) (position : Nat) : Option Value :=
  (data[position]?).join

def Row.IsNumber (data : Row) (position : Nat) : Prop :=
  ∃ n : Number, data.argument position = some n.toValue

/-- The number at a position, or the error that names the position. -/
def Row.number (function : String) (data : Row) (position : Nat) : Except ExecutionError Number :=
  match data.argument position with
  | none => .error (.nullArgument function position)
  | some v =>
    match v.asNumber? with
    | some n => .ok n
    | none => .error (.unsupportedValue function position v.attributeType)

namespace Row

variable {function : String} {data : Row} {position : Nat}

theorem number_of_none (h : data.argument position = none) :
    data.number function position = .error (.nullArgument function position) := by
  unfold number
  rw [h]

theorem number_of_other {v : Value} (h : data.argument position = some v)
    (hv : v.attributeType = .bool ∨ v.attributeType = .string) :
    data.number function position =
      .error (.unsupportedValue function position v.attributeType) := by
  unfold number
  simp only [h, v.asNumber?_eq_none_iff.mpr hv]

theorem number_of_number {n : Number} (h : data.argument position = some n.toValue) :
    data.number function position = .ok n := by
  unfold number
  simp only [h, Value.asNumber?_toValue]

theorem IsNumber.exists_number (h : data.IsNumber position) :
    ∃ n : Number, data.argument position = some n.toValue ∧
      ∀ function, data.number function position = .ok n := by
  obtain ⟨n, hn⟩ := h
  exact ⟨n, hn, fun _ => number_of_number hn⟩

theorem number_congr {other : Row} (h : other.argument position = data.argument position) :
    other.number function position = data.number function position := by
  unfold number
  rw [h]

theorem numericArgument_eq_number {declared : AttributeType}
    (h : declared ∈ AttributeType.numeric) :
    numericArgument function data position declared =
      (data.number function position).map Number.toBinary64 := by
  unfold numericArgument number argument
  obtain hnone | ⟨n, hn⟩ | ⟨v, hsome, hv⟩ :=
    Value.absent_or_number_or_other (data[position]?).join
  · rw [hnone, coerceToDouble_none h]
    rfl
  · rw [hn, coerceToDouble_number h]
    simp only [Value.asNumber?_toValue]
    rfl
  · rw [hsome, coerceToDouble_nonNumericValue h hv]
    simp only [v.asNumber?_eq_none_iff.mpr hv]
    rfl

end Row

namespace MathFunction

variable {kind : Kind} {types : List AttributeType} {ctx : AppContext} {data : Row}

/-! ## The values that a function reads -/

theorem numericArgument_of_accepts (h : Accepts kind types) {position : Nat}
    (hlt : position < kind.arity) (function : String) (data : Row) :
    numericArgument function data position (types.getD position .object) =
      (data.number function position).map Number.toBinary64 := by
  obtain ⟨hlength, haccepted⟩ := accepts_iff.mp h
  have hposition : position < types.length := by omega
  refine Row.numericArgument_eq_number (Kind.mem_numeric_of_mem_accepted (haccepted _ ?_))
  rw [List.getD_eq_getElem?_getD, List.getElem?_eq_getElem hposition]
  exact List.getElem_mem hposition

def result (kind : Kind) (function : String) (types : List AttributeType) (number : Number)
    (base : Except ExecutionError Number) : Except ExecutionError Value :=
  match kind with
  | .log => base.bind fun b => logarithm function number.toBinary64 b.toBinary64
  | .round => .ok (rounded (Kind.round.returnType types) number.toBinary64)
  | .sinh => .ok (.double number.toBinary64.sinh)

theorem execute_validated (h : Accepts kind types) (data : Row) :
    (validated kind ctx types).execute data =
      (data.number (StreamScalar.displayName ctx kind.name) 0).bind fun number =>
        result kind (StreamScalar.displayName ctx kind.name) types number
          (data.number (StreamScalar.displayName ctx kind.name) 1) := by
  show evaluate _ types data = _
  unfold evaluate
  dsimp only [validated]
  cases kind with
  | log =>
    dsimp only
    rw [numericArgument_of_accepts h (by decide), numericArgument_of_accepts h (by decide)]
    cases data.number (StreamScalar.displayName ctx Kind.log.name) 0 with
    | error e => rfl
    | ok n => cases data.number (StreamScalar.displayName ctx Kind.log.name) 1 <;> rfl
  | round =>
    dsimp only
    rw [numericArgument_of_accepts h (by decide)]
    cases data.number (StreamScalar.displayName ctx Kind.round.name) 0 <;> rfl
  | sinh =>
    dsimp only
    rw [numericArgument_of_accepts h (by decide)]
    cases data.number (StreamScalar.displayName ctx Kind.sinh.name) 0 <;> rfl

theorem execute_of_number_error (h : Accepts kind types) {position : Nat}
    (hlt : position < kind.arity) (hearlier : ∀ earlier < position, data.IsNumber earlier)
    {e : ExecutionError}
    (he : data.number (StreamScalar.displayName ctx kind.name) position = .error e) :
    (validated kind ctx types).execute data = .error e := by
  rw [execute_validated h]
  match position with
  | 0 =>
    rw [he]
    rfl
  | position + 1 =>
    -- only a logarithm has a second argument, which it reads behind a number
    obtain ⟨rfl, rfl⟩ : kind = .log ∧ position = 0 := by
      cases kind <;> simp only [Kind.arity] at hlt
      · exact ⟨rfl, by omega⟩
      · omega
      · omega
    obtain ⟨n, -, hn⟩ := (hearlier 0 Nat.one_pos).exists_number
    rw [hn, he]
    rfl

/-! ## Numbers -/

/-- The function is a logarithm, and its base is the number one. -/
def IsLogToOne (kind : Kind) (data : Row) : Prop :=
  kind = .log ∧ ∃ one ∈ Number.ones, data.argument 1 = some one.toValue

theorem logarithm_one (function : String) (x : Binary64) {base : Number} (h : base ∈ Number.ones) :
    ∃ reason, logarithm function x base.toBinary64 = .error (.undefinedDomain function reason) := by
  have hone := Binary64.equals_one_iff.mpr (base.toBinary64_eq_one_iff.mpr h)
  unfold logarithm
  rw [if_pos hone]
  exact ⟨_, rfl⟩

theorem logarithm_other (function : String) (x : Binary64) {base : Number}
    (h : base ∉ Number.ones) : ∃ v, logarithm function x base.toBinary64 = .ok v := by
  have hother : ¬ base.toBinary64.equals .one = true := by
    rwa [Binary64.equals_one_iff, base.toBinary64_eq_one_iff]
  unfold logarithm
  rw [if_neg hother]
  exact ⟨_, rfl⟩

theorem execute_of_numbers (h : Accepts kind types) (ctx : AppContext)
    (hnumbers : ∀ position < kind.arity, data.IsNumber position) :
    (IsLogToOne kind data ∧ ∃ reason, (validated kind ctx types).execute data =
      .error (.undefinedDomain (StreamScalar.displayName ctx kind.name) reason)) ∨
    (¬ IsLogToOne kind data ∧ ∃ v, (validated kind ctx types).execute data = .ok v) := by
  have hpos : 0 < kind.arity := by cases kind <;> decide
  obtain ⟨n, -, hn⟩ := (hnumbers 0 hpos).exists_number
  rw [execute_validated h, hn]
  cases kind with
  | log =>
    obtain ⟨b, hb, hbase⟩ := (hnumbers 1 (by decide)).exists_number
    rw [hbase]
    by_cases hone : b ∈ Number.ones
    · exact Or.inl ⟨⟨rfl, b, hone, hb⟩, logarithm_one _ _ hone⟩
    · refine Or.inr ⟨?_, logarithm_other _ _ hone⟩
      rintro ⟨-, one, hmem, hsame⟩
      rw [hb, Option.some.injEq] at hsame
      exact hone (Number.toValue_inj hsame ▸ hmem)
  | round => exact Or.inr ⟨fun hlog => (by cases hlog.1), _, rfl⟩
  | sinh => exact Or.inr ⟨fun hlog => (by cases hlog.1), _, rfl⟩

/-! ## The answers -/

theorem execute_congr (h : Accepts kind types) (ctx : AppContext) {other : Row}
    (hsame : ∀ position < kind.arity, other.argument position = data.argument position) :
    (validated kind ctx types).execute other = (validated kind ctx types).execute data := by
  rw [execute_validated h, execute_validated h]
  cases kind with
  | log => rw [Row.number_congr (hsame 0 (by decide)), Row.number_congr (hsame 1 (by decide))]
  | round =>
    rw [Row.number_congr (hsame 0 (by decide))]
    rfl
  | sinh =>
    rw [Row.number_congr (hsame 0 (by decide))]
    rfl

/-- **The answer to an event is decided by the first argument value that is no number**: it names the
function and the position, and says whether the value is absent or of which type it is. If all are
numbers, the logarithm to base one is undefined, and anything else has a result. Values past the arity
do not matter, and values that are not there are absent. -/
theorem execute_outcomes (h : Accepts kind types) (ctx : AppContext) (data : Row) :
    (∀ position < kind.arity, (∀ earlier < position, data.IsNumber earlier) →
      (data.argument position = none → (validated kind ctx types).execute data =
        .error (.nullArgument (StreamScalar.displayName ctx kind.name) position)) ∧
      ∀ v, data.argument position = some v →
        v.attributeType = .bool ∨ v.attributeType = .string →
        (validated kind ctx types).execute data = .error (.unsupportedValue
          (StreamScalar.displayName ctx kind.name) position v.attributeType)) ∧
    ((∀ position < kind.arity, data.IsNumber position) →
      ((∃ reason, (validated kind ctx types).execute data =
        .error (.undefinedDomain (StreamScalar.displayName ctx kind.name) reason)) ↔
          IsLogToOne kind data) ∧
      ((∃ v, (validated kind ctx types).execute data = .ok v) ↔ ¬ IsLogToOne kind data)) ∧
    ∀ other : Row, (∀ position < kind.arity, other.argument position = data.argument position) →
      (validated kind ctx types).execute other = (validated kind ctx types).execute data := by
  refine ⟨fun position hlt hearlier => ⟨fun hnone => ?_, fun v hsome hv => ?_⟩,
    fun hnumbers => ?_, fun other hsame => execute_congr h ctx hsame⟩
  · exact execute_of_number_error h hlt hearlier (Row.number_of_none hnone)
  · exact execute_of_number_error h hlt hearlier (Row.number_of_other hsome hv)
  · rcases execute_of_numbers h ctx hnumbers with ⟨hone, reason, hanswer⟩ | ⟨hother, v, hanswer⟩
    · rw [hanswer]
      refine ⟨⟨fun _ => hone, fun _ => ⟨reason, rfl⟩⟩, fun hv => ?_, fun hnot => absurd hone hnot⟩
      obtain ⟨v, hv⟩ := hv
      cases hv
    · rw [hanswer]
      refine ⟨⟨fun hundefined => ?_, fun hone => absurd hone hother⟩, fun _ => hother,
        fun _ => ⟨v, rfl⟩⟩
      obtain ⟨reason, hreason⟩ := hundefined
      cases hreason

/-- A bad base is found behind a good number only, and base one behind two numbers; what stands past
the base is not read. -/
theorem execute_outcomes_log :
    let arguments : List Argument := [.attributeAt 0 .long, .constant (.float ⟨0x3f800000⟩)]
    let f := ((create .log).validate arguments {}).next
    Accepts .log [.long, .float] ∧
      f.execute [some (.string "8"), none] = .error (.unsupportedValue "math:log()" 0 .string) ∧
      f.execute [some (.long 8)] = .error (.nullArgument "math:log()" 1) ∧
      ∃ reason, f.execute [some (.long 8), some (.float ⟨0x3f800000⟩), some (.bool true)] =
        .error (.undefinedDomain "math:log()" reason) := by
  intro arguments f
  have hvalidated : ((create .log).validate arguments {}).answer = .ok () := rfl
  obtain ⟨haccepts, hf⟩ : Accepts .log [.long, .float] ∧ f = validated .log {} [.long, .float] :=
    validate_next hvalidated
  have hname : StreamScalar.displayName {} Kind.log.name = "math:log()" := by decide
  have hlong : Row.IsNumber [some (.long 8)] 0 := ⟨.long 8, rfl⟩
  rw [hf, ← hname]
  refine ⟨haccepts, ?_, ?_, ?_⟩
  · obtain ⟨hfault, -, -⟩ := execute_outcomes haccepts {} [some (.string "8"), none]
    exact (hfault 0 (by decide) (by simp)).2 _ rfl (Or.inr rfl)
  · obtain ⟨hfault, -, -⟩ := execute_outcomes haccepts {} [some (.long 8)]
    exact (hfault 1 (by decide) (by simpa using hlong)).1 rfl
  · obtain ⟨-, hresult, -⟩ := execute_outcomes haccepts {}
      [some (.long 8), some (.float ⟨0x3f800000⟩), some (.bool true)]
    refine (hresult fun position hlt => ?_).1.mpr ⟨rfl, .float ⟨0x3f800000⟩, by decide, rfl⟩
    rcases Nat.le_one_iff_eq_zero_or_eq_one.mp (Nat.le_of_lt_succ hlt) with rfl | rfl
    · exact ⟨.long 8, rfl⟩
    · exact ⟨.float ⟨0x3f800000⟩, rfl⟩

end MathFunction

end StreamScalar
