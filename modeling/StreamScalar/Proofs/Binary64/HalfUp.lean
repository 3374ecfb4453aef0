import StreamScalar.Proofs.Binary64.Integer

/-!
# Rounding half up is exact

`roundHalfUp` works with doubles that are rounded after every step. For finite `x` the floor is
exact; the distance to it may be rounded, but never across one half, because a distance below one half
is a double (`representable_excess`); and one is only added to floors far below `2 ^ 53`.

* `read_floor` : the floor is exact.
* `half_le_sub_floor_iff` : the comparison with one half is that of the exact distance.
* `truncateInto_roundHalfUp` : the result, the infinities and not-a-numbers included.
-/

namespace StreamScalar

namespace Binary64

/-- The whole number that a double comes to: `⌊x + 1 / 2⌋` in exact arithmetic, cut to bounds. The
infinities come to the bounds, and what is not a number to zero. -/
def halfUp (x : Binary64) (least greatest : ℤ) : ℤ :=
  match x.value? with
  | some q => max least (min greatest ⌊q + 1 / 2⌋)
  | none => if x.isNaN then 0 else if x.isNegative then least else greatest

/-! ## Reading sums -/

theorem read_neg {x : Binary64} {negative : Bool} {units : Nat} (h : x.read = .finite negative units) :
    x.neg.read = .finite (!negative) units := by
  obtain ⟨hlt, rfl, rfl⟩ := read_eq_finite_iff.mp h
  have hbound := hlt.trans infinityMagnitude_lt
  rw [read_eq_finite_iff, neg, magnitude_ofMagnitude hbound, isNegative_ofMagnitude hbound]
  exact ⟨hlt, rfl, rfl⟩

theorem isNaN_of_read {x : Binary64} {negative : Bool} {units : Nat}
    (h : x.read = .finite negative units) : x.isNaN = false := by
  obtain ⟨hlt, -, -⟩ := read_eq_finite_iff.mp h
  exact decide_eq_false (by omega)

theorem add_of_read {x y : Binary64} {s t : Bool} {a b : Nat} (hx : x.read = .finite s a)
    (hy : y.read = .finite t b) :
    x.add y =
      if signed s a + signed t b = 0 then (if s && t then negativeZero else zero)
      else ofSignedUnits (signed s a + signed t b) := by
  unfold add
  rw [hx, hy]

theorem read_ofMagnitude_zero (negative : Bool) :
    (ofMagnitude negative 0).read = .finite negative 0 := by
  rw [read_eq_finite_iff, magnitude_ofMagnitude (twoPow_pos 63), isNegative_ofMagnitude (twoPow_pos 63),
    unitsOf_zero]
  exact ⟨by decide, rfl, rfl⟩

theorem read_add {x y : Binary64} {s t : Bool} {a b : Nat} (hx : x.read = .finite s a)
    (hy : y.read = .finite t b) (hsum : Representable (signed s a + signed t b).natAbs) :
    ∃ negative units, (x.add y).read = .finite negative units ∧
      signed negative units = signed s a + signed t b := by
  rw [add_of_read hx hy]
  by_cases hzero : signed s a + signed t b = 0
  · rw [if_pos hzero, hzero]
    split
    · exact ⟨true, 0, read_ofMagnitude_zero true, rfl⟩
    · exact ⟨false, 0, read_ofMagnitude_zero false, rfl⟩
  · rw [if_neg hzero]
    exact ⟨_, _, read_ofUnits hsum _, signed_natAbs _⟩

/-! ## The floor -/

/-- How many whole ones lie between zero and the floor. -/
def wholeOnes (negative : Bool) (units : Nat) : Nat :=
  if negative then (units + (unitsPerOne - 1)) / unitsPerOne else units / unitsPerOne

theorem signed_wholeOnes (negative : Bool) (units : Nat) :
    signed negative (wholeOnes negative units) * unitsPerOne ≤ signed negative units ∧
      signed negative units < signed negative (wholeOnes negative units) * unitsPerOne + unitsPerOne := by
  have hpos := unitsPerOne_pos
  rw [← signed_mul]
  unfold signed wholeOnes
  -- only that a one has some units counts here, not how many
  generalize unitsPerOne = unitsPerOne at hpos ⊢
  cases negative
  · have hdiv := Nat.div_add_mod' units unitsPerOne
    have hmod := Nat.mod_lt units hpos
    simp only [Bool.false_eq_true, if_false]
    omega
  · have hdiv := Nat.div_add_mod' (units + (unitsPerOne - 1)) unitsPerOne
    have hmod := Nat.mod_lt (units + (unitsPerOne - 1)) hpos
    simp only [if_true]
    omega

theorem wholeOnes_mul (negative : Bool) (n : Nat) :
    wholeOnes negative (n * unitsPerOne) = n := by
  have hpos := unitsPerOne_pos
  unfold wholeOnes
  generalize unitsPerOne = unitsPerOne at hpos ⊢
  cases negative
  · rw [if_neg Bool.false_ne_true, Nat.mul_div_cancel n hpos]
  · rw [if_pos rfl, Nat.mul_comm, Nat.mul_add_div hpos, Nat.div_eq_of_lt (by omega), Nat.add_zero]

theorem wholeOnes_le {negative : Bool} {units n : Nat} (h : units ≤ n * unitsPerOne) :
    wholeOnes negative units ≤ n := by
  have hpos := unitsPerOne_pos
  unfold wholeOnes
  generalize unitsPerOne = unitsPerOne at hpos h ⊢
  cases negative
  · rw [if_neg Bool.false_ne_true]
    exact Nat.div_le_of_le_mul (by rwa [Nat.mul_comm])
  · rw [if_pos rfl]
    refine Nat.le_of_lt_succ ((Nat.div_lt_iff_lt_mul hpos).mpr ?_)
    rw [Nat.succ_mul]
    omega

theorem wholeOnes_eq_or_le {units : Nat} (h : Representable units) (negative : Bool) :
    wholeOnes negative units * unitsPerOne = units ∨ wholeOnes negative units ≤ twoPow 52 := by
  rcases Nat.le_total units (twoPow 52 * unitsPerOne) with hle | hge
  · exact Or.inr (wholeOnes_le hle)
  · -- from `2 ^ 52` on doubles are at least one apart
    obtain ⟨magnitude, -, rfl⟩ := h
    rw [unitsPerOne_eq, ← twoPow_add] at hge
    have hdvd := twoPow_dvd_unitsOf hge
    rw [← unitsPerOne_eq] at hdvd
    obtain ⟨n, hn⟩ := hdvd
    rw [Nat.mul_comm] at hn
    rw [hn, wholeOnes_mul]
    exact Or.inl rfl

theorem representable_wholeOnes {units : Nat} (h : Representable units) (negative : Bool) :
    Representable (wholeOnes negative units * unitsPerOne) := by
  rcases wholeOnes_eq_or_le h negative with heq | hle
  · rwa [heq]
  · exact representable_mul_unitsPerOne (hle.trans (twoPow_le_twoPow (by omega)))

theorem representable_of_read {x : Binary64} {negative : Bool} {units : Nat}
    (h : x.read = .finite negative units) : Representable units := by
  obtain ⟨hlt, -, rfl⟩ := read_eq_finite_iff.mp h
  exact representable_iff_lt.mpr hlt

theorem read_floor {x : Binary64} {negative : Bool} {units : Nat}
    (h : x.read = .finite negative units) :
    x.floor.read = .finite negative (wholeOnes negative units * unitsPerOne) := by
  unfold floor
  rw [h]
  exact read_ofUnits (representable_wholeOnes (representable_of_read h) negative) negative

/-! ## The distance to the floor -/

def unitsPerHalf : Nat := twoPow 1073

theorem unitsPerHalf_eq : unitsPerHalf = twoPow 1073 := by
  unfold unitsPerHalf
  rfl

theorem unitsPerOne_eq_two_mul : unitsPerOne = 2 * unitsPerHalf := by
  have hexponent : 1073 + 1 = 1074 := rfl
  have hsucc := twoPow_succ 1073
  rw [hexponent, ← unitsPerOne_eq, ← unitsPerHalf_eq] at hsucc
  exact hsucc

theorem representable_unitsPerHalf : Representable unitsPerHalf := by
  rw [unitsPerHalf_eq]
  exact representable_twoPow (by omega)

theorem order?_half : half.order? = some (unitsPerHalf : ℤ) := by
  obtain ⟨magnitude, hlt, hunits⟩ := representable_unitsPerHalf
  have hmagnitude : nearestMagnitude unitsPerOne 2 = magnitude := by
    rw [unitsPerOne_eq_two_mul, ← hunits, Nat.mul_comm]
    exact nearestMagnitude_unitsOf_mul (by omega) hlt.le
  rw [order?_eq_some_iff, half, magnitude_ofUnits, isNegative_ofUnits, hmagnitude, hunits]
  exact ⟨hlt.le, rfl⟩

/-- The exact distance from a number of units down to its floor. -/
def excess (negative : Bool) (units : Nat) : Nat :=
  (signed negative units - signed negative (wholeOnes negative units) * unitsPerOne).toNat

theorem cast_excess (negative : Bool) (units : Nat) :
    (excess negative units : ℤ) =
      signed negative units - signed negative (wholeOnes negative units) * unitsPerOne := by
  obtain ⟨hle, -⟩ := signed_wholeOnes negative units
  exact Int.toNat_of_nonneg (sub_nonneg.mpr hle)

theorem signed_not (negative : Bool) (units : Nat) :
    signed (!negative) units = -signed negative units := by
  cases negative <;> simp

theorem order?_ofSignedUnits (n : Nat) :
    (ofSignedUnits n).order? = some (unitsOf 52 (nearestMagnitude n 1) : ℤ) := by
  have hsign : decide ((n : ℤ) < 0) = false := decide_eq_false (by omega)
  rw [order?_eq_some_iff, ofSignedUnits, magnitude_ofUnits, isNegative_ofUnits, hsign, Int.natAbs_natCast]
  exact ⟨nearestMagnitude_le_infinityMagnitude _ _, rfl⟩

theorem order?_sub_floor {x : Binary64} {negative : Bool} {units : Nat}
    (h : x.read = .finite negative units) :
    (x.sub x.floor).order? =
      some (unitsOf 52 (nearestMagnitude (excess negative units) 1) : ℤ) := by
  have hfloor := read_floor h
  have hsum : signed negative units + signed (!negative) (wholeOnes negative units * unitsPerOne) =
      excess negative units := by
    rw [cast_excess, signed_not, signed_mul]
    rfl
  unfold sub
  rw [isNaN_of_read h, isNaN_of_read hfloor, add_of_read h (read_neg hfloor), hsum]
  simp only [Bool.false_eq_true, if_false, Bool.and_not_self]
  split
  · next hzero =>
    -- no distance at all is the zero without a sign, which is what rounding makes of it
    obtain ⟨hlt, hsign, hunits⟩ := read_eq_finite_iff.mp (read_ofMagnitude_zero false)
    have hexcess : excess negative units = 0 := by exact_mod_cast hzero
    have hnearest : unitsOf 52 (nearestMagnitude 0 1) = 0 :=
      Representable.unitsOf_nearestMagnitude ⟨0, by decide, unitsOf_zero 52⟩
    rw [hexcess, hnearest, order?_eq_some_iff, zero, ← hsign, ← hunits]
    exact ⟨hlt.le, rfl⟩
  · exact order?_ofSignedUnits _

theorem excess_lt (negative : Bool) (units : Nat) : excess negative units < unitsPerOne := by
  obtain ⟨-, hlt⟩ := signed_wholeOnes negative units
  have hexcess := cast_excess negative units
  generalize unitsPerOne = unitsPerOne at *
  omega

theorem excess_eq_of_lt {negative : Bool} {units : Nat} (hsmall : units < unitsPerHalf)
    (hlt : excess negative units < unitsPerHalf) : excess negative units = units := by
  have hone := unitsPerOne_eq_two_mul
  have hexcess := cast_excess negative units
  have hwhole : wholeOnes negative units ≤ 1 := wholeOnes_le (by omega)
  -- the floor is zero, or minus one, and then the number is further than one half above it
  rcases Nat.le_one_iff_eq_zero_or_eq_one.mp hwhole with hzero | hfull
  · rw [hzero] at hexcess
    cases negative <;> simp only [signed_false, signed_true] at hexcess <;> omega
  · rw [hfull] at hexcess
    cases negative <;> simp only [signed_false, signed_true] at hexcess <;> omega

theorem dvd_signed {n units : Nat} (h : n ∣ units) (negative : Bool) :
    (n : ℤ) ∣ signed negative units := by
  have hcast : (n : ℤ) ∣ units := Int.natCast_dvd_natCast.mpr h
  cases negative
  · exact hcast
  · exact (Int.dvd_neg).mpr hcast

theorem representable_excess {units : Nat} (h : Representable units) {negative : Bool}
    (hlt : excess negative units < unitsPerHalf) : Representable (excess negative units) := by
  rcases Nat.lt_or_ge units unitsPerHalf with hsmall | hlarge
  · rwa [excess_eq_of_lt hsmall hlt]
  · -- the number is a multiple of a unit in which the distance has at most 52 bits
    have hsplit : 1073 = 52 + 1021 := rfl
    rw [unitsPerHalf_eq, hsplit] at hlarge hlt
    have hunits : twoPow 1021 ∣ units := by
      obtain ⟨magnitude, -, rfl⟩ := h
      exact twoPow_dvd_unitsOf hlarge
    have hone : twoPow 1021 ∣ unitsPerOne := by
      rw [unitsPerOne_eq]
      exact twoPow_dvd_twoPow (by omega)
    have hdvd : ((twoPow 1021 : Nat) : ℤ) ∣ excess negative units := by
      rw [cast_excess]
      exact Int.dvd_sub (dvd_signed hunits negative)
        ((Int.natCast_dvd_natCast.mpr hone).mul_left _)
    exact representable_of_dvd (Int.natCast_dvd_natCast.mp hdvd) hlt (by omega)

/-- The rounded distance lies on the same side of one half as the exact one. -/
theorem half_le_sub_floor_iff {x : Binary64} {negative : Bool} {units : Nat}
    (h : x.read = .finite negative units) :
    half.le (x.sub x.floor) = true ↔ unitsPerHalf ≤ excess negative units := by
  rw [le, order?_half, order?_sub_floor h]
  simp only [decide_eq_true_eq, Nat.cast_le]
  constructor
  · intro hle
    by_contra hlt
    rw [(representable_excess (representable_of_read h) (Nat.lt_of_not_le hlt)).unitsOf_nearestMagnitude]
      at hle
    exact hlt hle
  · intro hle
    have hmono := unitsOf_nearestMagnitude_le hle
    rwa [representable_unitsPerHalf.unitsOf_nearestMagnitude] at hmono

/-! ## Rounding half up -/

theorem read_one : one.read = .finite false unitsPerOne := by
  have h := read_ofInt (show Int.natAbs 1 ≤ twoPow 53 by decide)
  simp only [Int.natAbs_one, Nat.one_mul] at h
  exact h

theorem natAbs_signed (negative : Bool) (units : Nat) : (signed negative units).natAbs = units := by
  cases negative <;> simp

/-- One is only added to floors of less than `2 ^ 53`, where that is exact. -/
theorem read_floor_add_one {x : Binary64} {negative : Bool} {units : Nat}
    (h : x.read = .finite negative units) (hexcess : excess negative units ≠ 0) :
    ∃ s n, (x.floor.add one).read = .finite s (n * unitsPerOne) ∧
      signed s n = signed negative (wholeOnes negative units) + 1 := by
  have hwhole : wholeOnes negative units ≤ twoPow 52 := by
    refine (wholeOnes_eq_or_le (representable_of_read h) negative).resolve_left fun heq => ?_
    have hzero := cast_excess negative units
    rw [← signed_mul, heq, sub_self] at hzero
    exact hexcess (by exact_mod_cast hzero)
  have hsum : signed negative (wholeOnes negative units * unitsPerOne) + signed false unitsPerOne =
      (signed negative (wholeOnes negative units) + 1) * unitsPerOne := by
    rw [signed_mul, add_mul, one_mul]
    rfl
  have hbound : (signed negative (wholeOnes negative units) + 1).natAbs ≤ twoPow 53 := by
    have habs := natAbs_signed negative (wholeOnes negative units)
    have htwo : twoPow 53 = 2 * twoPow 52 := twoPow_succ 52
    have hpos := twoPow_pos 52
    omega
  -- the sum is read off exactly, and its units are a multiple of one
  obtain ⟨s, result, hread, hresult⟩ := read_add (read_floor h) read_one (by
    rw [hsum, Int.natAbs_mul, Int.natAbs_natCast]
    exact representable_mul_unitsPerOne hbound)
  rw [hsum] at hresult
  have hunits := congrArg Int.natAbs hresult
  rw [natAbs_signed, Int.natAbs_mul, Int.natAbs_natCast] at hunits
  rw [hunits] at hread hresult
  rw [signed_mul] at hresult
  have hne : (unitsPerOne : ℤ) ≠ 0 := by exact_mod_cast unitsPerOne_pos.ne'
  exact ⟨s, _, hread, mul_right_cancel₀ hne hresult⟩

theorem read_roundHalfUp {x : Binary64} {negative : Bool} {units : Nat}
    (h : x.read = .finite negative units) :
    ∃ s n, x.roundHalfUp.read = .finite s (n * unitsPerOne) ∧
      2 * (signed s n * unitsPerOne) ≤ 2 * signed negative units + unitsPerOne ∧
      2 * signed negative units + unitsPerOne < 2 * (signed s n * unitsPerOne) + 2 * unitsPerOne := by
  have hexcess := cast_excess negative units
  have hlt := excess_lt negative units
  have hhalf := unitsPerOne_eq_two_mul
  have hpos := unitsPerOne_pos
  unfold roundHalfUp
  dsimp only
  by_cases hup : unitsPerHalf ≤ excess negative units
  · rw [if_pos ((half_le_sub_floor_iff h).mpr hup)]
    obtain ⟨s, n, hread, hsigned⟩ := read_floor_add_one h (by omega)
    refine ⟨s, n, hread, ?_⟩
    rw [hsigned, add_mul, one_mul]
    generalize unitsPerOne = unitsPerOne at *
    omega
  · rw [if_neg (fun hle => hup ((half_le_sub_floor_iff h).mp hle))]
    refine ⟨negative, _, read_floor h, ?_⟩
    generalize unitsPerOne = unitsPerOne at *
    omega

theorem truncateInto_of_read {x : Binary64} {negative : Bool} {n : Nat}
    (h : x.read = .finite negative (n * unitsPerOne)) (least greatest : ℤ) :
    x.truncateInto least greatest = max least (min greatest (signed negative n)) := by
  unfold truncateInto
  rw [h]
  dsimp only
  rw [Nat.mul_div_cancel n unitsPerOne_pos]

theorem truncateInto_roundHalfUp_of_value? {x : Binary64} {q : ℚ} (h : x.value? = some q)
    (least greatest : ℤ) :
    x.roundHalfUp.truncateInto least greatest = max least (min greatest ⌊q + 1 / 2⌋) := by
  obtain ⟨hlt, hvalue⟩ := value?_eq_some_iff.mp h
  obtain ⟨s, n, hread, hlow, hhigh⟩ := read_roundHalfUp (read_eq_finite_iff.mpr ⟨hlt, rfl, rfl⟩)
  have hpos := cast_unitsPerOne_pos
  have hfloor : ⌊q + 1 / 2⌋ = signed s n := by
    have hlow' : (2 * (signed s n * unitsPerOne) : ℚ) ≤ 2 * (q * unitsPerOne) + unitsPerOne := by
      rw [hvalue]
      exact_mod_cast hlow
    have hhigh' : 2 * (q * unitsPerOne) + unitsPerOne <
        (2 * (signed s n * unitsPerOne) + 2 * unitsPerOne : ℚ) := by
      rw [hvalue]
      exact_mod_cast hhigh
    generalize (unitsPerOne : ℚ) = one at hpos hlow' hhigh'
    rw [Int.floor_eq_iff]
    constructor
    · refine le_of_mul_le_mul_right ?_ hpos
      linarith
    · refine lt_of_mul_lt_mul_right ?_ hpos.le
      linarith
  rw [truncateInto_of_read hread, hfloor]

/-! ## Infinities and not-a-numbers -/

theorem roundHalfUp_of_isNaN {x : Binary64} (h : x.isNaN = true) (least greatest : ℤ) :
    x.roundHalfUp.truncateInto least greatest = 0 := by
  have hnan := isNaN_quiet h
  have hfloor : x.floor = x.quiet := by
    rw [floor, read_eq_nan_iff.mpr h]
  have hsub : x.sub x.quiet = x.quiet := by
    rw [sub, if_pos h]
  have hle : half.le x.quiet = false := by
    have hnone : x.quiet.order? = none := by
      rw [order?, if_pos hnan]
    rw [le, hnone, order?_half]
  rw [roundHalfUp, hfloor, hsub, if_neg (by rw [hle]; exact Bool.false_ne_true), truncateInto,
    read_eq_nan_iff.mpr hnan]

theorem roundHalfUp_of_infinite {x : Binary64} (h : x.magnitude = infinityMagnitude)
    (least greatest : ℤ) :
    x.roundHalfUp.truncateInto least greatest = if x.isNegative then least else greatest := by
  have hread := read_eq_infinite_iff.mpr ⟨h, rfl⟩
  have hbound := infinityMagnitude_lt
  rw [← h] at hbound
  have hneg : x.neg.read = .infinite (!x.isNegative) := by
    rw [read_eq_infinite_iff, neg, magnitude_ofMagnitude hbound, isNegative_ofMagnitude hbound]
    exact ⟨h, rfl⟩
  have hnan : x.isNaN = false := decide_eq_false (by omega)
  have hfloor : x.floor = x := by
    rw [floor, hread]
  have hsub : x.sub x = undefined := by
    rw [sub, hnan]
    simp only [Bool.false_eq_true, if_false]
    rw [add, hread, hneg]
    simp
  have hle : half.le undefined = false := by
    have hnone : undefined.order? = none := rfl
    rw [le, hnone, order?_half]
  rw [roundHalfUp, hfloor, hsub, if_neg (by rw [hle]; exact Bool.false_ne_true), truncateInto, hread]

/-- **Rounding half up is exact on every double**, although it is computed with rounded steps. -/
theorem truncateInto_roundHalfUp (x : Binary64) (least greatest : ℤ) :
    x.roundHalfUp.truncateInto least greatest = x.halfUp least greatest := by
  unfold halfUp
  cases hvalue : x.value? with
  | some q => exact truncateInto_roundHalfUp_of_value? hvalue least greatest
  | none =>
    have hle := value?_eq_none_iff.mp hvalue
    dsimp only
    split
    · next hnan => exact roundHalfUp_of_isNaN hnan least greatest
    · next hnumber =>
      have hbound : ¬ infinityMagnitude < x.magnitude := by simpa [isNaN] using hnumber
      exact roundHalfUp_of_infinite (by omega) least greatest

theorem halfUp_mem (x : Binary64) {least greatest : ℤ} (hleast : least ≤ 0) (hgreatest : 0 ≤ greatest) :
    least ≤ x.halfUp least greatest ∧ x.halfUp least greatest ≤ greatest := by
  unfold halfUp
  split
  · omega
  · split
    · omega
    · split <;> omega

end Binary64

end StreamScalar
