import Mathlib.Algebra.Order.Field.Power
import StreamScalar.Binary32
import StreamScalar.Proofs.Binary64.Rounding

/-!
# The numbers that doubles and singles denote

`value?` is the rational number that the standard gives to sign, exponent and fraction of a finite
double or single. `IsNearest q x` says that no finite double is nearer to `q` than `x`, and that the
significand of `x` is even if another one is as near.

* `ieeeNumber?_eq_some_iff`, `Binary64.value?_eq_some_iff` : units against rational numbers.
* `Binary64.isNearest_ofUnits` : every quotient of units is rounded to the nearest double.
* `Binary64.le_eq_true_iff` : finite doubles are in the order of the numbers that they denote.
* `Binary64.eq_of_order?_eq` : the zeros aside, doubles at the same place are the same.
-/

namespace StreamScalar

/-- The size of the number that magnitude bits denote, as the IEEE-754 standard has it: the fraction
follows a point, and a one stands before the point unless the exponent bits are all zero. -/
def ieeeSize (fractionBits bias magnitude : Nat) : ℚ :=
  let exponent := magnitude / twoPow fractionBits
  let fraction : ℚ := (magnitude % twoPow fractionBits : Nat) / (twoPow fractionBits : Nat)
  if exponent = 0 then fraction * 2 ^ (1 - (bias : ℤ))
  else (1 + fraction) * 2 ^ ((exponent : ℤ) - bias)

def withSign (negative : Bool) (size : ℚ) : ℚ :=
  if negative then -size else size

/-- The number that a sign and magnitude bits denote. -/
def ieeeNumber (fractionBits bias : Nat) (negative : Bool) (magnitude : Nat) : ℚ :=
  withSign negative (ieeeSize fractionBits bias magnitude)

/-- The number that a sign and magnitude bits denote, unless the exponent bits are all ones. -/
def ieeeNumber? (fractionBits bias : Nat) (negative : Bool) (magnitude : Nat) : Option ℚ :=
  if magnitude / twoPow fractionBits < 2 * bias + 1 then
    some (ieeeNumber fractionBits bias negative magnitude)
  else none

/-- The number that a finite double denotes. -/
def Binary64.value? (x : Binary64) : Option ℚ :=
  ieeeNumber? 52 1023 x.isNegative x.magnitude

def Binary32.value? (x : Binary32) : Option ℚ :=
  ieeeNumber? 23 127 x.isNegative x.magnitude

/-- A double is the one nearest to a number, a tie going to the even significand. -/
def Binary64.IsNearest (q : ℚ) (x : Binary64) : Prop :=
  ∃ r, x.value? = some r ∧
    (∀ y s, Binary64.value? y = some s → |q - r| ≤ |q - s|) ∧
    ∀ y s, Binary64.value? y = some s → s ≠ r → |q - s| = |q - r| → x.magnitude % 2 = 0

/-! ## Units -/

theorem cast_twoPow (exponent : Nat) : ((twoPow exponent : Nat) : ℚ) = 2 ^ exponent := by
  show ((2 ^ exponent : Nat) : ℚ) = 2 ^ exponent
  push_cast
  rfl

@[simp] theorem Binary64.signed_false (units : Nat) : signed false units = units :=
  rfl

@[simp] theorem Binary64.signed_true (units : Nat) : signed true units = -(units : ℤ) :=
  rfl

theorem cast_signed (negative : Bool) (units : Nat) :
    ((Binary64.signed negative units : ℤ) : ℚ) = withSign negative units := by
  cases negative <;> simp [withSign]

theorem withSign_mul (negative : Bool) (size factor : ℚ) :
    withSign negative size * factor = withSign negative (size * factor) := by
  cases negative
  · rfl
  · exact neg_mul size factor

section Size

variable {fractionBits magnitude : Nat}

theorem ieeeSize_mul_of_div_eq_zero (hfield : magnitude / twoPow fractionBits = 0) (exponent : Nat) :
    ieeeSize fractionBits (exponent + 1) magnitude * (2 ^ exponent * (twoPow fractionBits : Nat)) =
      unitsOf fractionBits magnitude := by
  have hne : ((twoPow fractionBits : Nat) : ℚ) ≠ 0 := by exact_mod_cast (twoPow_pos _).ne'
  have hscale : (2 : ℚ) ^ (1 - ((exponent + 1 : Nat) : ℤ)) * 2 ^ exponent = 1 := by
    rw [← zpow_natCast, ← zpow_add₀ two_ne_zero]
    simp
  have hfraction : magnitude % twoPow fractionBits = magnitude := by
    have hdiv := Nat.div_add_mod' magnitude (twoPow fractionBits)
    rwa [hfield, Nat.zero_mul, Nat.zero_add] at hdiv
  have hunits : unitsOf fractionBits magnitude = magnitude := by
    rw [unitsOf_of_div 0 (by omega)]
    simp
  unfold ieeeSize
  dsimp only
  rw [if_pos hfield, hunits, hfraction]
  calc (magnitude / (twoPow fractionBits : Nat) : ℚ) * 2 ^ (1 - ((exponent + 1 : Nat) : ℤ)) *
        (2 ^ exponent * (twoPow fractionBits : Nat))
      = magnitude / (twoPow fractionBits : Nat) * (twoPow fractionBits : Nat) *
          (2 ^ (1 - ((exponent + 1 : Nat) : ℤ)) * 2 ^ exponent) := by ring
    _ = magnitude := by rw [hscale, mul_one, div_mul_cancel₀ _ hne]

theorem ieeeSize_mul_of_div_eq_succ {k : Nat} (hfield : magnitude / twoPow fractionBits = k + 1)
    (exponent : Nat) :
    ieeeSize fractionBits (exponent + 1) magnitude * (2 ^ exponent * (twoPow fractionBits : Nat)) =
      unitsOf fractionBits magnitude := by
  have hne : ((twoPow fractionBits : Nat) : ℚ) ≠ 0 := by exact_mod_cast (twoPow_pos _).ne'
  have hscale : (2 : ℚ) ^ (((k + 1 : Nat) : ℤ) - (exponent + 1 : Nat)) * 2 ^ exponent = 2 ^ k := by
    rw [← zpow_natCast, ← zpow_natCast, ← zpow_add₀ two_ne_zero]
    congr 1
    push_cast
    ring
  have hsignificand : magnitude - k * twoPow fractionBits =
      twoPow fractionBits + magnitude % twoPow fractionBits := by
    have hdiv := Nat.div_add_mod' magnitude (twoPow fractionBits)
    rw [hfield, Nat.succ_mul] at hdiv
    omega
  have hunits : (unitsOf fractionBits magnitude : ℚ) =
      ((twoPow fractionBits : Nat) + (magnitude % twoPow fractionBits : Nat)) * 2 ^ k := by
    rw [unitsOf_of_div k (by omega), hsignificand, Nat.cast_mul, Nat.cast_add, cast_twoPow k]
  unfold ieeeSize
  dsimp only
  rw [hfield, if_neg k.succ_ne_zero, hunits, ← hscale]
  generalize ((magnitude % twoPow fractionBits : Nat) : ℚ) = fraction
  calc (1 + fraction / (twoPow fractionBits : Nat)) *
          2 ^ (((k + 1 : Nat) : ℤ) - (exponent + 1 : Nat)) *
        (2 ^ exponent * (twoPow fractionBits : Nat))
      = ((twoPow fractionBits : Nat) +
          fraction / (twoPow fractionBits : Nat) * (twoPow fractionBits : Nat)) *
          (2 ^ (((k + 1 : Nat) : ℤ) - (exponent + 1 : Nat)) * 2 ^ exponent) := by ring
    _ = _ := by rw [div_mul_cancel₀ _ hne]

/-- The standard's formula counts in units of the smallest positive number. -/
theorem ieeeSize_mul {exponent total : Nat} (htotal : total = exponent + fractionBits)
    (magnitude : Nat) :
    ieeeSize fractionBits (exponent + 1) magnitude * (twoPow total : Nat) =
      unitsOf fractionBits magnitude := by
  rw [htotal, twoPow_add, Nat.cast_mul, cast_twoPow exponent]
  cases hfield : magnitude / twoPow fractionBits with
  | zero => exact ieeeSize_mul_of_div_eq_zero hfield exponent
  | succ k => exact ieeeSize_mul_of_div_eq_succ hfield exponent

end Size

theorem ieeeNumber_mul {fractionBits exponent total : Nat}
    (htotal : total = exponent + fractionBits) (negative : Bool) (magnitude : Nat) :
    ieeeNumber fractionBits (exponent + 1) negative magnitude * (twoPow total : Nat) =
      (Binary64.signed negative (unitsOf fractionBits magnitude) : ℤ) := by
  rw [cast_signed, ← ieeeSize_mul htotal, ieeeNumber, withSign_mul]

theorem ieeeNumber?_eq_some_iff {fractionBits exponent total : Nat}
    (htotal : total = exponent + fractionBits) {negative : Bool} {magnitude : Nat} {q : ℚ} :
    ieeeNumber? fractionBits (exponent + 1) negative magnitude = some q ↔
      magnitude < (2 * (exponent + 1) + 1) * twoPow fractionBits ∧
        q * (twoPow total : Nat) = (Binary64.signed negative (unitsOf fractionBits magnitude) : ℤ) := by
  have hone : ((twoPow total : Nat) : ℚ) ≠ 0 := by exact_mod_cast (twoPow_pos total).ne'
  unfold ieeeNumber?
  simp only [Nat.div_lt_iff_lt_mul (twoPow_pos fractionBits)]
  rw [← ieeeNumber_mul htotal]
  split
  · next hlt =>
    rw [Option.some.injEq]
    exact ⟨fun heq => ⟨hlt, by rw [heq]⟩, fun heq => (mul_right_cancel₀ hone heq.2).symm⟩
  · next hge => exact ⟨fun heq => (by cases heq), fun heq => absurd heq.1 hge⟩

theorem ieeeNumber?_eq_none_iff {fractionBits bias : Nat} {negative : Bool} {magnitude : Nat} :
    ieeeNumber? fractionBits bias negative magnitude = none ↔
      (2 * bias + 1) * twoPow fractionBits ≤ magnitude := by
  unfold ieeeNumber?
  simp only [Nat.div_lt_iff_lt_mul (twoPow_pos fractionBits)]
  split
  · next hlt => exact ⟨fun hnone => (by cases hnone), fun hle => absurd hlt (Nat.not_lt.mpr hle)⟩
  · next hge => exact ⟨fun _ => Nat.not_lt.mp hge, fun _ => rfl⟩

namespace Binary64

theorem unitsPerOne_eq : unitsPerOne = twoPow 1074 := by
  unfold unitsPerOne
  rfl

theorem unitsPerOne_pos : 0 < unitsPerOne := by
  unfold unitsPerOne
  exact twoPow_pos _

theorem cast_unitsPerOne_pos : (0 : ℚ) < unitsPerOne := by
  exact_mod_cast unitsPerOne_pos

theorem value?_eq_some_iff {x : Binary64} {q : ℚ} :
    x.value? = some q ↔ x.magnitude < infinityMagnitude ∧
      q * unitsPerOne = (signed x.isNegative (unitsOf 52 x.magnitude) : ℤ) := by
  rw [unitsPerOne_eq]
  exact ieeeNumber?_eq_some_iff (show 1074 = 1022 + 52 from rfl)

theorem value?_eq_none_iff {x : Binary64} : x.value? = none ↔ infinityMagnitude ≤ x.magnitude :=
  ieeeNumber?_eq_none_iff

/-! ## Bits -/

section Bits

variable {negative : Bool} {magnitude : Nat}

theorem toNat_ofMagnitude (hlt : magnitude < twoPow 63) :
    (ofMagnitude negative magnitude).bits.toNat = magnitude + if negative then twoPow 63 else 0 := by
  have hhalf : twoPow 63 = 9223372036854775808 := rfl
  have hsize : (2 : Nat) ^ 64 = 18446744073709551616 := rfl
  unfold ofMagnitude
  rw [UInt64.toNat_ofNat', hsize]
  apply Nat.mod_eq_of_lt
  split <;> omega

@[simp] theorem magnitude_ofMagnitude (hlt : magnitude < twoPow 63) :
    (ofMagnitude negative magnitude).magnitude = magnitude := by
  unfold Binary64.magnitude
  rw [toNat_ofMagnitude hlt]
  cases negative
  · exact Nat.mod_eq_of_lt hlt
  · rw [if_pos rfl, Nat.add_mod_right, Nat.mod_eq_of_lt hlt]

@[simp] theorem isNegative_ofMagnitude (hlt : magnitude < twoPow 63) :
    (ofMagnitude negative magnitude).isNegative = negative := by
  unfold isNegative
  rw [toNat_ofMagnitude hlt]
  cases negative
  · simpa using hlt
  · simp

theorem eq_of_magnitude {x y : Binary64} (hsign : x.isNegative = y.isNegative)
    (hmagnitude : x.magnitude = y.magnitude) : x = y := by
  have hhalf : twoPow 63 = 9223372036854775808 := rfl
  have hx := x.bits.toNat_lt
  have hy := y.bits.toNat_lt
  unfold isNegative at hsign
  unfold Binary64.magnitude at hmagnitude
  rw [decide_eq_decide] at hsign
  rw [hhalf] at hsign hmagnitude
  have hbits : x.bits.toNat = y.bits.toNat := by omega
  cases x
  cases y
  exact congrArg Binary64.mk (UInt64.toNat_inj.mp hbits)

end Bits

theorem magnitude_quiet (x : Binary64) :
    x.magnitude ≤ x.quiet.magnitude ∧ x.quiet.isNegative = x.isNegative := by
  have hbit : (0x0008000000000000 : UInt64).toNat = twoPow 51 := rfl
  have hor : x.quiet.bits.toNat = x.bits.toNat ||| twoPow 51 := by
    rw [quiet, UInt64.toNat_or, hbit]
  constructor
  · unfold magnitude
    have hmod : (x.bits.toNat ||| twoPow 51) % twoPow 63 =
        x.bits.toNat % twoPow 63 ||| twoPow 51 % twoPow 63 := Nat.or_mod_two_pow
    rw [hor, hmod]
    exact Nat.left_le_or
  · unfold isNegative
    have hdiv : (x.bits.toNat ||| twoPow 51) / twoPow 63 =
        x.bits.toNat / twoPow 63 ||| twoPow 51 / twoPow 63 := Nat.or_div_two_pow
    have hsmall : twoPow 51 / twoPow 63 = 0 := by decide
    have hsame : (x.bits.toNat ||| twoPow 51) / twoPow 63 = x.bits.toNat / twoPow 63 := by
      rw [hdiv, hsmall, Nat.or_zero]
    have hle : ∀ n : Nat, twoPow 63 ≤ n ↔ 0 < n / twoPow 63 := fun n =>
      (Nat.div_pos_iff.trans (and_iff_right (twoPow_pos 63))).symm
    rw [hor, decide_eq_decide, hle, hle, hsame]

theorem isNaN_quiet {x : Binary64} (h : x.isNaN = true) : x.quiet.isNaN = true := by
  have hle := (magnitude_quiet x).1
  simp only [isNaN, decide_eq_true_eq] at h ⊢
  omega

theorem infinityMagnitude_lt : infinityMagnitude < twoPow 63 := by
  decide

section OfUnits

variable (negative : Bool) (a b : Nat)

theorem nearestMagnitude_lt_twoPow : nearestMagnitude a b < twoPow 63 :=
  (nearestMagnitude_le_infinityMagnitude a b).trans_lt infinityMagnitude_lt

@[simp] theorem magnitude_ofUnits : (ofUnits negative a b).magnitude = nearestMagnitude a b :=
  magnitude_ofMagnitude (nearestMagnitude_lt_twoPow a b)

@[simp] theorem isNegative_ofUnits : (ofUnits negative a b).isNegative = negative :=
  isNegative_ofMagnitude (nearestMagnitude_lt_twoPow a b)

end OfUnits

/-! ## The nearest double -/

theorem abs_withSign_sub (negative : Bool) (v w : ℚ) :
    |withSign negative v - withSign negative w| = |v - w| := by
  cases negative
  · rfl
  · show |-v - -w| = |v - w|
    rw [neg_sub_neg, abs_sub_comm]

theorem abs_sub_le_abs_withSign {v w : ℚ} (hv : 0 ≤ v) (hw : 0 ≤ w) (s t : Bool) :
    |v - w| ≤ |withSign s v - withSign t w| := by
  have hsum : |v - w| ≤ v + w := abs_le.mpr ⟨by linarith, by linarith⟩
  cases s <;> cases t <;> simp only [withSign, if_true, if_false, Bool.false_eq_true]
  · exact le_rfl
  · rw [sub_neg_eq_add, abs_of_nonneg (add_nonneg hv hw)]
    exact hsum
  · rw [← neg_add', abs_neg, abs_of_nonneg (add_nonneg hv hw)]
    exact hsum
  · rw [neg_sub_neg, abs_sub_comm]

theorem eq_zero_of_abs_withSign {v w : ℚ} (hv : 0 ≤ v) (hw : 0 ≤ w) {s t : Bool} (hne : s ≠ t)
    (heq : |withSign s v - withSign t w| = |v - w|) : v = 0 ∨ w = 0 := by
  have hsum : v + w = |v - w| := by
    rw [← heq]
    cases s <;> cases t <;> simp only [withSign, if_true, if_false, Bool.false_eq_true] at hne ⊢
    · exact absurd rfl hne
    · rw [sub_neg_eq_add, abs_of_nonneg (add_nonneg hv hw)]
    · rw [← neg_add', abs_neg, abs_of_nonneg (add_nonneg hv hw)]
    · exact absurd rfl hne
  rcases abs_choice (v - w) with h | h
  · right
    linarith
  · left
    linarith

namespace Rounds

variable {units : ℚ} {m n : Nat} {s t : Bool}

theorem abs_sub_withSign_le (h : Rounds units m) (hunits : 0 ≤ units) :
    |withSign s units - withSign s (unitsOf 52 m)| ≤
      |withSign s units - withSign t (unitsOf 52 n)| :=
  calc |withSign s units - withSign s (unitsOf 52 m)| = |units - unitsOf 52 m| :=
        abs_withSign_sub s _ _
    _ ≤ |units - unitsOf 52 n| := h.abs_sub_le n
    _ ≤ |withSign s units - withSign t (unitsOf 52 n)| :=
        abs_sub_le_abs_withSign hunits (Nat.cast_nonneg _) s t

theorem even_of_abs_withSign_eq (h : Rounds units m) (hunits : 0 ≤ units)
    (hne : withSign t (unitsOf 52 n) ≠ withSign s (unitsOf 52 m))
    (htie : |withSign s units - withSign t (unitsOf 52 n)| =
      |withSign s units - withSign s (unitsOf 52 m)|) : m % 2 = 0 := by
  rw [abs_withSign_sub] at htie
  by_cases hmagnitude : n = m
  · -- the same size with the other sign: a tie at zero only
    subst hmagnitude
    have hsign : s ≠ t := by
      rintro rfl
      exact hne rfl
    have hzero : n = 0 := by
      rcases eq_zero_of_abs_withSign hunits (Nat.cast_nonneg _) hsign htie with hu | hw
      · refine Rounds.eq_of_eq (n := 0) ?_
        rw [unitsOf_zero, Nat.cast_zero, ← hu]
        exact h
      · refine (unitsOf_strictMono 52).injective ?_
        rw [unitsOf_zero]
        exact_mod_cast hw
    rw [hzero]
  · have hle := abs_sub_le_abs_withSign hunits (Nat.cast_nonneg (unitsOf 52 n)) s t
    exact h.even_of_eq hmagnitude (le_antisymm (hle.trans htie.le) (h.abs_sub_le n))

end Rounds

theorem abs_sub_mul_unitsPerOne (q r : ℚ) :
    |q - r| * unitsPerOne = |q * unitsPerOne - r * unitsPerOne| := by
  rw [← sub_mul, abs_mul, abs_of_pos cast_unitsPerOne_pos]

/-- **The rounding step gives the nearest double**, unless it gives infinity. -/
theorem isNearest_ofUnits {negative : Bool} {a b : Nat} (hb : 0 < b)
    (hlt : nearestMagnitude a b < infinityMagnitude) {q : ℚ}
    (hq : q * unitsPerOne = withSign negative (a / b)) : IsNearest q (ofUnits negative a b) := by
  have hrounds := rounds_nearestMagnitude hb hlt
  have hunits : (0 : ℚ) ≤ a / b := by positivity
  have hpos := cast_unitsPerOne_pos
  obtain ⟨r, hr⟩ : ∃ r, (ofUnits negative a b).value? = some r := by
    cases h : (ofUnits negative a b).value? with
    | none =>
      have hle := value?_eq_none_iff.mp h
      rw [magnitude_ofUnits] at hle
      omega
    | some r => exact ⟨r, rfl⟩
  obtain ⟨-, hvalue⟩ := value?_eq_some_iff.mp hr
  rw [isNegative_ofUnits, magnitude_ofUnits, cast_signed] at hvalue
  rw [IsNearest, magnitude_ofUnits]
  -- distances are compared in units
  refine ⟨r, hr, fun y s hs => ?_, fun y s hs hne htie => ?_⟩
  · obtain ⟨-, hother⟩ := value?_eq_some_iff.mp hs
    rw [cast_signed] at hother
    refine le_of_mul_le_mul_right ?_ hpos
    rw [abs_sub_mul_unitsPerOne, abs_sub_mul_unitsPerOne, hq, hvalue, hother]
    exact hrounds.abs_sub_withSign_le hunits
  · obtain ⟨-, hother⟩ := value?_eq_some_iff.mp hs
    rw [cast_signed] at hother
    refine hrounds.even_of_abs_withSign_eq hunits (s := negative) (t := y.isNegative)
      (n := y.magnitude) (fun heq => hne ?_) ?_
    · exact mul_right_cancel₀ hpos.ne' (hother.trans (heq.trans hvalue.symm))
    · rw [← hq, ← hvalue, ← hother, ← abs_sub_mul_unitsPerOne, ← abs_sub_mul_unitsPerOne, htie]

/-! ## The order of doubles -/

theorem order?_eq_some_iff {x : Binary64} {n : ℤ} :
    x.order? = some n ↔
      x.magnitude ≤ infinityMagnitude ∧ n = signed x.isNegative (unitsOf 52 x.magnitude) := by
  unfold order? isNaN
  by_cases h : infinityMagnitude < x.magnitude
  · simp only [h, decide_true, if_true]
    exact ⟨fun heq => (by cases heq), fun heq => absurd heq.1 (by omega)⟩
  · simp only [h, decide_false, Bool.false_eq_true, if_false, Option.some.injEq]
    exact ⟨fun heq => ⟨by omega, heq.symm⟩, fun heq => heq.2.symm⟩

theorem order?_of_value? {x : Binary64} {q : ℚ} (h : x.value? = some q) :
    ∃ n : ℤ, x.order? = some n ∧ (n : ℚ) = q * unitsPerOne := by
  obtain ⟨hlt, hvalue⟩ := value?_eq_some_iff.mp h
  exact ⟨_, order?_eq_some_iff.mpr ⟨hlt.le, rfl⟩, hvalue.symm⟩

theorem le_eq_true_iff {x y : Binary64} {p q : ℚ} (hx : x.value? = some p) (hy : y.value? = some q) :
    x.le y = true ↔ p ≤ q := by
  obtain ⟨m, hm, hp⟩ := order?_of_value? hx
  obtain ⟨n, hn, hq⟩ := order?_of_value? hy
  unfold le
  simp only [hm, hn, decide_eq_true_eq]
  rw [← Int.cast_le (R := ℚ), hp, hq, mul_le_mul_iff_left₀ cast_unitsPerOne_pos]

theorem signed_inj {s t : Bool} {a b : Nat} (h : signed s a = signed t b) (hne : signed s a ≠ 0) :
    s = t ∧ a = b := by
  cases s <;> cases t <;> simp only [signed_false, signed_true] at h hne
  · exact ⟨rfl, by omega⟩
  · omega
  · omega
  · exact ⟨rfl, by omega⟩

/-- The zeros are the only doubles that compare as equal without being the same. -/
theorem eq_of_order?_eq {x y : Binary64} {n : ℤ} (hx : x.order? = some n) (hy : y.order? = some n)
    (hne : n ≠ 0) : x = y := by
  obtain ⟨-, rfl⟩ := order?_eq_some_iff.mp hx
  obtain ⟨-, hsame⟩ := order?_eq_some_iff.mp hy
  obtain ⟨hsign, hunits⟩ := signed_inj hsame hne
  exact eq_of_magnitude hsign ((unitsOf_strictMono 52).injective hunits)

/-! ## What is read -/

theorem read_eq_finite_iff {x : Binary64} {negative : Bool} {units : Nat} :
    x.read = .finite negative units ↔
      x.magnitude < infinityMagnitude ∧ negative = x.isNegative ∧ units = unitsOf 52 x.magnitude := by
  unfold read
  by_cases hlt : x.magnitude < infinityMagnitude
  · simp only [hlt, if_true, Reading.finite.injEq, true_and]
    exact ⟨fun h => ⟨h.1.symm, h.2.symm⟩, fun h => ⟨h.1.symm, h.2.symm⟩⟩
  · simp only [hlt, if_false, false_and, iff_false]
    split <;> exact fun h => (by cases h)

theorem read_eq_nan_iff {x : Binary64} : x.read = .nan ↔ x.isNaN = true := by
  unfold read isNaN
  rw [decide_eq_true_eq]
  split
  · exact ⟨fun h => (by cases h), fun h => by omega⟩
  · split
    · exact ⟨fun h => (by cases h), fun h => by omega⟩
    · exact ⟨fun _ => by omega, fun _ => rfl⟩

theorem read_eq_infinite_iff {x : Binary64} {negative : Bool} :
    x.read = .infinite negative ↔ x.magnitude = infinityMagnitude ∧ negative = x.isNegative := by
  unfold read
  by_cases hlt : x.magnitude < infinityMagnitude
  · rw [if_pos hlt]
    exact ⟨fun h => (by cases h), fun h => absurd h.1 (by omega)⟩
  · rw [if_neg hlt]
    by_cases heq : x.magnitude = infinityMagnitude
    · rw [if_pos heq, Reading.infinite.injEq]
      exact ⟨fun h => ⟨heq, h.symm⟩, fun h => h.2.symm⟩
    · rw [if_neg heq]
      exact ⟨fun h => (by cases h), fun h => absurd h.1 heq⟩

theorem value?_of_read {x : Binary64} {negative : Bool} {units : Nat}
    (h : x.read = .finite negative units) :
    ∃ q, x.value? = some q ∧ q * unitsPerOne = (signed negative units : ℤ) := by
  obtain ⟨hlt, rfl, rfl⟩ := read_eq_finite_iff.mp h
  cases hvalue : x.value? with
  | none =>
    have hle := value?_eq_none_iff.mp hvalue
    omega
  | some q => exact ⟨q, rfl, (value?_eq_some_iff.mp hvalue).2⟩

theorem read_ofUnits {units : Nat} (h : Representable units) (negative : Bool) :
    (ofUnits negative units 1).read = .finite negative units := by
  rw [read_eq_finite_iff, magnitude_ofUnits, isNegative_ofUnits, h.unitsOf_nearestMagnitude]
  exact ⟨h.nearestMagnitude_lt, rfl, rfl⟩

end Binary64

end StreamScalar
