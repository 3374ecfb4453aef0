import StreamScalar.Proofs.Binary64.Value

/-!
# Whole numbers as doubles

A whole number becomes the nearest double. Up to `2 ^ 53` in size that is the number itself, and a
larger whole number never becomes a smaller double.

* `value?_ofInt` : exactness.
* `isNearest_ofInt` : the nearest double, for every number that does not overflow.
* `le_ofInt` : monotonicity.
* `equals_one_iff`, `ofInt_eq_one_iff` : the only double that equals one, and the only whole number
  that becomes it.
-/

namespace StreamScalar

namespace Binary64

theorem representable_mul_unitsPerOne {n : Nat} (hle : n ≤ twoPow 53) :
    Representable (n * unitsPerOne) := by
  rw [unitsPerOne_eq]
  refine representable_mul_twoPow hle ?_
  have hsplit : 53 + 1074 = 1127 := rfl
  calc n * twoPow 1074 ≤ twoPow 53 * twoPow 1074 := Nat.mul_le_mul_right _ hle
    _ = twoPow 1127 := by rw [← twoPow_add, hsplit]
    _ < twoPow 2098 := twoPow_lt_twoPow_iff.mpr (by omega)

theorem representable_twoPow_mul_unitsPerOne {exponent : Nat} (hlt : exponent < 1024) :
    Representable (twoPow exponent * unitsPerOne) := by
  rw [unitsPerOne_eq, ← twoPow_add]
  exact representable_twoPow (by omega)

theorem Representable.nearestMagnitude_lt_of_le {a c : Nat} (hc : Representable c) (hle : a ≤ c) :
    nearestMagnitude a 1 < infinityMagnitude := by
  refine (nearestMagnitude_mono Nat.one_pos Nat.one_pos ?_).trans_lt hc.nearestMagnitude_lt
  rw [Nat.cast_one, div_one, div_one]
  exact_mod_cast hle

theorem signed_natAbs (n : ℤ) : signed (decide (n < 0)) n.natAbs = n := by
  unfold signed
  by_cases h : n < 0
  · rw [if_pos (decide_eq_true h)]
    omega
  · rw [if_neg (by simpa using h)]
    omega

theorem signed_mul (negative : Bool) (a b : Nat) :
    signed negative (a * b) = signed negative a * b := by
  cases negative <;> simp

theorem read_ofInt {n : ℤ} (hle : n.natAbs ≤ twoPow 53) :
    (ofInt n).read = .finite (decide (n < 0)) (n.natAbs * unitsPerOne) :=
  read_ofUnits (representable_mul_unitsPerOne hle) _

theorem value?_ofInt {n : ℤ} (hle : n.natAbs ≤ twoPow 53) : (ofInt n).value? = some (n : ℚ) := by
  obtain ⟨q, hq, hvalue⟩ := value?_of_read (read_ofInt hle)
  rw [signed_mul, signed_natAbs, Int.cast_mul, Int.cast_natCast] at hvalue
  rw [hq, mul_right_cancel₀ cast_unitsPerOne_pos.ne' hvalue]

theorem isNearest_ofInt {n : ℤ} (hlt : n.natAbs < twoPow 1023) : IsNearest n (ofInt n) := by
  refine isNearest_ofUnits Nat.one_pos ?_ ?_
  · exact (representable_twoPow_mul_unitsPerOne (by omega)).nearestMagnitude_lt_of_le
      (Nat.mul_le_mul_right _ hlt.le)
  · rw [Nat.cast_one, div_one, ← cast_signed, signed_mul, signed_natAbs]
    push_cast
    rfl

theorem order?_ofInt (n : ℤ) :
    (ofInt n).order? =
      some (signed (decide (n < 0)) (unitsOf 52 (nearestMagnitude (n.natAbs * unitsPerOne) 1))) := by
  rw [order?_eq_some_iff, ofInt, magnitude_ofUnits, isNegative_ofUnits]
  exact ⟨nearestMagnitude_le_infinityMagnitude _ _, rfl⟩

theorem unitsOf_nearestMagnitude_le {a b : Nat} (h : a ≤ b) :
    unitsOf 52 (nearestMagnitude a 1) ≤ unitsOf 52 (nearestMagnitude b 1) := by
  refine (unitsOf_strictMono 52).monotone (nearestMagnitude_mono Nat.one_pos Nat.one_pos ?_)
  rw [Nat.cast_one, div_one, div_one]
  exact_mod_cast h

theorem order?_ofInt_le {m n : ℤ} (h : m ≤ n) :
    ∃ a b, (ofInt m).order? = some a ∧ (ofInt n).order? = some b ∧ a ≤ b := by
  refine ⟨_, _, order?_ofInt m, order?_ofInt n, ?_⟩
  have hgrow : ∀ {a b : Nat}, a ≤ b → unitsOf 52 (nearestMagnitude (a * unitsPerOne) 1) ≤
      unitsOf 52 (nearestMagnitude (b * unitsPerOne) 1) :=
    fun hab => unitsOf_nearestMagnitude_le (Nat.mul_le_mul_right _ hab)
  unfold signed
  by_cases hm : m < 0
  · by_cases hn : n < 0
    · have := hgrow (show n.natAbs ≤ m.natAbs by omega)
      simp only [hm, hn, decide_true, if_true]
      omega
    · simp only [hm, hn, decide_true, decide_false, if_true, if_false, Bool.false_eq_true]
      omega
  · have hn : ¬ n < 0 := by omega
    have := hgrow (show m.natAbs ≤ n.natAbs by omega)
    simp only [hm, hn, decide_false, if_false, Bool.false_eq_true]
    omega

theorem le_ofInt {m n : ℤ} (h : m ≤ n) : (ofInt m).le (ofInt n) = true := by
  obtain ⟨a, b, ha, hb, hle⟩ := order?_ofInt_le h
  rw [le, ha, hb]
  exact decide_eq_true hle

/-! ## The number one -/

theorem order?_ofInt_exact {n : ℤ} (hle : n.natAbs ≤ twoPow 53) :
    (ofInt n).order? = some (n * unitsPerOne) := by
  rw [order?_ofInt, (representable_mul_unitsPerOne hle).unitsOf_nearestMagnitude, signed_mul,
    signed_natAbs]

theorem order?_one : one.order? = some (unitsPerOne : ℤ) := by
  rw [one, order?_ofInt_exact (show Int.natAbs 1 ≤ twoPow 53 by decide), one_mul]

theorem equals_one_iff {x : Binary64} : x.equals one = true ↔ x = one := by
  have hne : (unitsPerOne : ℤ) ≠ 0 := by exact_mod_cast unitsPerOne_pos.ne'
  unfold equals
  rw [order?_one]
  cases hx : x.order? with
  | none =>
    refine ⟨fun h => (by cases h), ?_⟩
    rintro rfl
    rw [order?_one] at hx
    cases hx
  | some a =>
    simp only [decide_eq_true_eq]
    constructor
    · rintro rfl
      exact eq_of_order?_eq hx order?_one hne
    · rintro rfl
      rw [order?_one] at hx
      exact (Option.some.inj hx).symm

theorem one_eq : one = ⟨0x3ff0000000000000⟩ := by
  decide +kernel

/-- No other whole number becomes one, however many numbers share a double further out. -/
theorem ofInt_eq_one_iff {n : ℤ} : ofInt n = one ↔ n = 1 := by
  constructor
  · intro h
    have horder : (ofInt n).order? = some (unitsPerOne : ℤ) := by rw [h, order?_one]
    have hpos := unitsPerOne_pos
    rcases Int.lt_trichotomy n 1 with hlt | heq | hgt
    · obtain ⟨a, b, ha, hb, hle⟩ := order?_ofInt_le (show n ≤ 0 by omega)
      rw [order?_ofInt_exact (Nat.zero_le _)] at hb
      rw [horder] at ha
      cases ha
      cases hb
      omega
    · exact heq
    · obtain ⟨a, b, ha, hb, hle⟩ := order?_ofInt_le (show 2 ≤ n by omega)
      rw [order?_ofInt_exact (show Int.natAbs 2 ≤ twoPow 53 by decide)] at ha
      rw [horder] at hb
      cases ha
      cases hb
      omega
  · rintro rfl
    rfl

end Binary64

end StreamScalar
