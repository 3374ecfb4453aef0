import StreamScalar.Coercion
import StreamScalar.Proofs.Binary64.Integer
import StreamScalar.Proofs.Binary64.Single

/-!
# What coercion answers

`Number.TakenAs n x` says which double stands for a number: the number itself for 32-bit integers,
singles, doubles and 64-bit integers of at most 53 bits, and the nearest double for the others.

* `coerceToDouble_outcomes` : the four answers, what decides between them, and that every number is
  taken as the double that stands for it, in ascending order for 64-bit integers.
* `Number.toBinary64_eq_one_iff` : the numbers that are taken as one.
-/

namespace StreamScalar

namespace Number

/-- The double `x` stands for a number. -/
def TakenAs (x : Binary64) : Number → Prop
  | int n => x.value? = some (n.toInt : ℚ)
  | long n => x.IsNearest n.toInt ∧ (n.toInt.natAbs ≤ 2 ^ 53 → x.value? = some (n.toInt : ℚ))
  | float y => x.value? = y.value? ∧ x.isNaN = y.isNaN ∧ x.isNegative = y.isNegative
  | double y => x = y

theorem natAbs_toInt_le_of_int32 (n : Int32) : n.toInt.natAbs ≤ twoPow 53 := by
  have hbits : (2 : ℤ) ^ 31 ≤ twoPow 53 := by decide
  have hleast := n.le_toInt
  have hless := n.toInt_lt
  omega

theorem natAbs_toInt_lt_of_int64 (n : Int64) : n.toInt.natAbs < twoPow 1023 := by
  have hbits : (2 : ℤ) ^ 63 = twoPow 63 := rfl
  have hbound : twoPow 63 < twoPow 1023 := twoPow_lt_twoPow_iff.mpr (by omega)
  have hleast := n.le_toInt
  have hless := n.toInt_lt
  generalize twoPow 1023 = bound at *
  omega

theorem takenAs_toBinary64 (n : Number) : n.TakenAs n.toBinary64 := by
  cases n with
  | int n => exact Binary64.value?_ofInt (natAbs_toInt_le_of_int32 n)
  | long n =>
    exact ⟨Binary64.isNearest_ofInt (natAbs_toInt_lt_of_int64 n), Binary64.value?_ofInt⟩
  | float x => exact ⟨x.value?_widen, x.isNaN_widen, x.isNegative_widen⟩
  | double x => rfl

theorem toBinary64_long_le {a b : Int64} (h : a ≤ b) :
    (long a).toBinary64.le (long b).toBinary64 = true ∧
      ∃ p q, (long a).toBinary64.value? = some p ∧ (long b).toBinary64.value? = some q ∧ p ≤ q := by
  have hle : (long a).toBinary64.le (long b).toBinary64 = true :=
    Binary64.le_ofInt (Int64.le_iff_toInt_le.mp h)
  obtain ⟨p, hp, -⟩ := Binary64.isNearest_ofInt (natAbs_toInt_lt_of_int64 a)
  obtain ⟨q, hq, -⟩ := Binary64.isNearest_ofInt (natAbs_toInt_lt_of_int64 b)
  exact ⟨hle, p, q, hp, hq, (Binary64.le_eq_true_iff hp hq).mp hle⟩

/-- The numbers of each type that are one. -/
def ones : List Number :=
  [int 1, long 1, float ⟨0x3f800000⟩, double ⟨0x3ff0000000000000⟩]

/-- No other number is taken as one, although many 64-bit integers share a double. -/
theorem toBinary64_eq_one_iff (n : Number) : n.toBinary64 = .one ↔ n ∈ ones := by
  unfold ones
  cases n with
  | int n =>
    have hone : n.toInt = 1 ↔ n = 1 := by rw [← Int32.toInt_inj]; rfl
    simpa [toBinary64, Binary64.ofInt_eq_one_iff] using hone
  | long n =>
    have hone : n.toInt = 1 ↔ n = 1 := by rw [← Int64.toInt_inj]; rfl
    simpa [toBinary64, Binary64.ofInt_eq_one_iff] using hone
  | float x => simpa [toBinary64] using Binary32.widen_eq_one_iff
  | double x => simp [toBinary64, Binary64.one_eq]

end Number

theorem Value.asNumber?_eq_some_iff {v : Value} {n : Number} :
    v.asNumber? = some n ↔ v = n.toValue := by
  cases v <;> cases n <;> simp [asNumber?, Number.toValue]

theorem Value.absent_or_number_or_other (value : Option Value) :
    value = none ∨ (∃ n : Number, value = some n.toValue) ∨
      ∃ v, value = some v ∧ (v.attributeType = .bool ∨ v.attributeType = .string) := by
  cases value with
  | none => exact Or.inl rfl
  | some v =>
    cases hnumber : v.asNumber? with
    | none => exact Or.inr (Or.inr ⟨v, rfl, v.asNumber?_eq_none_iff.mp hnumber⟩)
    | some n => exact Or.inr (Or.inl ⟨n, congrArg some (asNumber?_eq_some_iff.mp hnumber)⟩)

theorem Number.toValue_inj {m n : Number} (h : m.toValue = n.toValue) : m = n := by
  rw [← Option.some.injEq, ← Value.asNumber?_toValue, h, Value.asNumber?_toValue]

/-! ## The answers -/

section coerceToDouble

variable {value : Option Value} {declared : AttributeType}

theorem coerceToDouble_nonNumericType (h : declared ∉ AttributeType.numeric) :
    coerceToDouble value declared = .error (.nonNumericType declared) := by
  rw [← AttributeType.isNumeric_iff_mem_numeric] at h
  exact if_neg h

theorem coerceToDouble_none (h : declared ∈ AttributeType.numeric) :
    coerceToDouble none declared = .error .absent := by
  rw [← AttributeType.isNumeric_iff_mem_numeric] at h
  exact if_pos h

theorem coerceToDouble_number (h : declared ∈ AttributeType.numeric) (n : Number) :
    coerceToDouble (some n.toValue) declared = .ok n.toBinary64 := by
  rw [← AttributeType.isNumeric_iff_mem_numeric] at h
  unfold coerceToDouble
  rw [if_pos h]
  simp only [Value.asNumber?_toValue]

theorem coerceToDouble_nonNumericValue (h : declared ∈ AttributeType.numeric) {v : Value}
    (hv : v.attributeType = .bool ∨ v.attributeType = .string) :
    coerceToDouble (some v) declared = .error (.nonNumericValue v.attributeType) := by
  rw [← AttributeType.isNumeric_iff_mem_numeric] at h
  rw [← Value.asNumber?_eq_none_iff] at hv
  unfold coerceToDouble
  rw [if_pos h]
  simp only [hv]

/-- The answers of coercion, each with what decides for it. -/
inductive Coerces (declared : AttributeType) : Option Value → Except CoercionError Binary64 → Prop
  | nonNumericType (value : Option Value) (h : declared ∉ AttributeType.numeric) :
      Coerces declared value (.error (.nonNumericType declared))
  | absent (h : declared ∈ AttributeType.numeric) : Coerces declared none (.error .absent)
  | nonNumericValue (h : declared ∈ AttributeType.numeric) (v : Value)
      (hv : v.attributeType = .bool ∨ v.attributeType = .string) :
      Coerces declared (some v) (.error (.nonNumericValue v.attributeType))
  | number (h : declared ∈ AttributeType.numeric) (n : Number) :
      Coerces declared (some n.toValue) (.ok n.toBinary64)

theorem coerces_coerceToDouble (value : Option Value) (declared : AttributeType) :
    Coerces declared value (coerceToDouble value declared) := by
  by_cases h : declared ∈ AttributeType.numeric
  · obtain rfl | ⟨n, rfl⟩ | ⟨v, rfl, hv⟩ := Value.absent_or_number_or_other value
    · rw [coerceToDouble_none h]
      exact .absent h
    · rw [coerceToDouble_number h]
      exact .number h n
    · rw [coerceToDouble_nonNumericValue h hv]
      exact .nonNumericValue h v hv
  · rw [coerceToDouble_nonNumericType h]
    exact .nonNumericType value h

theorem coerceToDouble_eq_nonNumericType_iff {type : AttributeType} :
    coerceToDouble value declared = .error (.nonNumericType type) ↔
      declared ∉ AttributeType.numeric ∧ type = declared := by
  constructor
  · intro heq
    have hanswer := coerces_coerceToDouble value declared
    rw [heq] at hanswer
    cases hanswer with
    | nonNumericType value h => exact ⟨h, rfl⟩
  · rintro ⟨h, rfl⟩
    exact coerceToDouble_nonNumericType h

theorem coerceToDouble_eq_absent_iff :
    coerceToDouble value declared = .error .absent ↔
      declared ∈ AttributeType.numeric ∧ value = none := by
  constructor
  · intro heq
    have hanswer := coerces_coerceToDouble value declared
    rw [heq] at hanswer
    cases hanswer with
    | absent h => exact ⟨h, rfl⟩
  · rintro ⟨h, rfl⟩
    exact coerceToDouble_none h

theorem coerceToDouble_eq_nonNumericValue_iff {type : AttributeType} :
    coerceToDouble value declared = .error (.nonNumericValue type) ↔
      declared ∈ AttributeType.numeric ∧ (type = .bool ∨ type = .string) ∧
        ∃ v, value = some v ∧ v.attributeType = type := by
  constructor
  · intro heq
    have hanswer := coerces_coerceToDouble value declared
    rw [heq] at hanswer
    cases hanswer with
    | nonNumericValue h v hv => exact ⟨h, hv, v, rfl, rfl⟩
  · rintro ⟨h, hv, v, rfl, rfl⟩
    exact coerceToDouble_nonNumericValue h hv

theorem coerceToDouble_eq_ok_iff {x : Binary64} :
    coerceToDouble value declared = .ok x ↔
      declared ∈ AttributeType.numeric ∧ ∃ n : Number, value = some n.toValue ∧ n.toBinary64 = x := by
  constructor
  · intro heq
    have hanswer := coerces_coerceToDouble value declared
    rw [heq] at hanswer
    cases hanswer with
    | number h n => exact ⟨h, n, rfl, rfl⟩
  · rintro ⟨h, n, rfl, rfl⟩
    exact coerceToDouble_number h n

end coerceToDouble

/-- **Coercion is uniform.** The declared type is judged before the value, presence before the
value's own type; a number is taken as the double that stands for it, whatever numeric type is
declared, and 64-bit integers keep their order. -/
theorem coerceToDouble_outcomes (value : Option Value) (declared : AttributeType) :
    (∀ type, coerceToDouble value declared = .error (.nonNumericType type) ↔
      declared ∉ AttributeType.numeric ∧ type = declared) ∧
    (coerceToDouble value declared = .error .absent ↔
      declared ∈ AttributeType.numeric ∧ value = none) ∧
    (∀ type, coerceToDouble value declared = .error (.nonNumericValue type) ↔
      declared ∈ AttributeType.numeric ∧ (type = .bool ∨ type = .string) ∧
        ∃ v, value = some v ∧ v.attributeType = type) ∧
    (∀ x, coerceToDouble value declared = .ok x ↔
      declared ∈ AttributeType.numeric ∧ ∃ n : Number, value = some n.toValue ∧ n.toBinary64 = x) ∧
    (∀ n : Number, n.TakenAs n.toBinary64) ∧
    ∀ a b : Int64, a ≤ b → (Number.long a).toBinary64.le (Number.long b).toBinary64 = true ∧
      ∃ p q, (Number.long a).toBinary64.value? = some p ∧
        (Number.long b).toBinary64.value? = some q ∧ p ≤ q :=
  ⟨fun _ => coerceToDouble_eq_nonNumericType_iff, coerceToDouble_eq_absent_iff,
    fun _ => coerceToDouble_eq_nonNumericValue_iff, fun _ => coerceToDouble_eq_ok_iff,
    Number.takenAs_toBinary64, fun _ _ => Number.toBinary64_long_le⟩

/-- Two odd numbers beyond `2 ^ 53`, each halfway between two doubles: the first tie goes down and
the second up. -/
theorem coerceToDouble_outcomes_ties :
    coerceToDouble (some (.long 9007199254740993)) .int = .ok ⟨0x4340000000000000⟩ ∧
    coerceToDouble (some (.long 9007199254740995)) .int = .ok ⟨0x4340000000000002⟩ ∧
    (9007199254740993 : Int64) ≤ 9007199254740995 ∧
    (⟨0x4340000000000000⟩ : Binary64).le ⟨0x4340000000000002⟩ = true := by
  obtain ⟨-, -, -, hdown, -, hle⟩ :=
    coerceToDouble_outcomes (some (.long 9007199254740993)) .int
  obtain ⟨-, -, -, hup, -, -⟩ := coerceToDouble_outcomes (some (.long 9007199254740995)) .int
  have hfirst : (Number.long 9007199254740993).toBinary64 = ⟨0x4340000000000000⟩ := by
    decide +kernel
  have hsecond : (Number.long 9007199254740995).toBinary64 = ⟨0x4340000000000002⟩ := by
    decide +kernel
  obtain ⟨horder, -⟩ := hle 9007199254740993 9007199254740995 (by decide)
  rw [hfirst, hsecond] at horder
  exact ⟨(hdown _).mpr ⟨by decide, _, rfl, hfirst⟩, (hup _).mpr ⟨by decide, _, rfl, hsecond⟩,
    by decide, horder⟩

end StreamScalar
