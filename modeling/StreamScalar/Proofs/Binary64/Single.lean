import StreamScalar.Proofs.Binary64.Integer

/-!
# Singles as doubles

* `Binary32.value?_widen`, `Binary32.isNaN_widen`, `Binary32.isNegative_widen` : widening keeps the
  number, the infinities, what is not a number, and the sign.
* `Binary32.widen_eq_one_iff` : the only single that becomes one.
-/

namespace StreamScalar

namespace Binary32

open Binary64 (signed Representable)

variable {x : Binary32}

theorem magnitude_lt (x : Binary32) : x.magnitude < twoPow 31 :=
  Nat.mod_lt _ (twoPow_pos 31)

theorem eq_of_magnitude {y : Binary32} (hsign : x.isNegative = y.isNegative)
    (hmagnitude : x.magnitude = y.magnitude) : x = y := by
  have hhalf : twoPow 31 = 2147483648 := rfl
  have hx := x.bits.toNat_lt
  have hy := y.bits.toNat_lt
  unfold isNegative at hsign
  unfold magnitude at hmagnitude
  rw [decide_eq_decide] at hsign
  rw [hhalf] at hsign hmagnitude
  have hbits : x.bits.toNat = y.bits.toNat := by omega
  cases x
  cases y
  exact congrArg Binary32.mk (UInt32.toNat_inj.mp hbits)

theorem value?_eq_some_iff {q : ℚ} :
    x.value? = some q ↔ x.magnitude < infinityMagnitude ∧
      q * (twoPow 149 : Nat) = (signed x.isNegative (unitsOf 23 x.magnitude) : ℤ) :=
  ieeeNumber?_eq_some_iff (show 149 = 126 + 23 from rfl)

theorem value?_eq_none_iff : x.value? = none ↔ infinityMagnitude ≤ x.magnitude :=
  ieeeNumber?_eq_none_iff

/-! ## Widening -/

theorem unitsOf_infinityMagnitude : unitsOf 23 infinityMagnitude = twoPow 277 := by
  have hsplit : infinityMagnitude = 254 * twoPow 23 + twoPow 23 := rfl
  have hexponent : 277 = 23 + 254 := rfl
  rw [hsplit, unitsOf_least, hexponent]

theorem representable_widened (hlt : x.magnitude < infinityMagnitude) :
    Representable (unitsOf 23 x.magnitude * twoPow 925) := by
  have hbound := unitsOf_strictMono 23 hlt
  rw [unitsOf_infinityMagnitude] at hbound
  obtain ⟨exponent, significand, hmagnitude, hnormal, hsignificand⟩ := exists_significand 23 x.magnitude
  rw [hmagnitude, unitsOf_significand hnormal hsignificand.le] at hbound ⊢
  rw [Nat.mul_assoc, ← twoPow_add]
  have hbits : 2 * twoPow 23 ≤ twoPow 53 := by decide
  refine Binary64.representable_mul_twoPow (by omega) ?_
  have hsum : 277 + 925 = 1202 := rfl
  calc significand * twoPow (exponent + 925) = significand * twoPow exponent * twoPow 925 := by
        rw [twoPow_add, Nat.mul_assoc]
    _ < twoPow 277 * twoPow 925 := Nat.mul_lt_mul_of_pos_right hbound (twoPow_pos 925)
    _ = twoPow 1202 := by rw [← twoPow_add, hsum]
    _ < twoPow 2098 := twoPow_lt_twoPow_iff.mpr (by omega)

theorem read_widen (hlt : x.magnitude < infinityMagnitude) :
    x.widen.read = .finite x.isNegative (unitsOf 23 x.magnitude * twoPow 925) := by
  have hexponent : 1074 - 149 = 925 := rfl
  unfold widen
  rw [if_pos hlt, hexponent]
  exact Binary64.read_ofUnits (representable_widened hlt) _

theorem widened_nan_bounds (hgreater : infinityMagnitude < x.magnitude) :
    Binary64.infinityMagnitude <
        Binary64.infinityMagnitude + (x.magnitude - infinityMagnitude) * twoPow 29 ∧
      Binary64.infinityMagnitude + (x.magnitude - infinityMagnitude) * twoPow 29 < twoPow 63 := by
  have hbound := x.magnitude_lt
  have hsingle : infinityMagnitude = 2139095040 := rfl
  have hsize : twoPow 31 = 2147483648 := rfl
  have hdouble : Binary64.infinityMagnitude = 9218868437227405312 := rfl
  have hhalf : twoPow 63 = 9223372036854775808 := rfl
  have hshift : twoPow 29 = 536870912 := rfl
  rw [hsize] at hbound
  rw [hsingle] at hgreater
  rw [hsingle, hdouble, hhalf, hshift]
  omega

theorem widen_of_le (hle : infinityMagnitude ≤ x.magnitude) :
    Binary64.infinityMagnitude ≤ x.widen.magnitude ∧
      (Binary64.infinityMagnitude < x.widen.magnitude ↔ infinityMagnitude < x.magnitude) ∧
      x.widen.isNegative = x.isNegative := by
  unfold widen
  rw [if_neg (by omega)]
  split
  · next heq =>
    have hlt := Binary64.infinityMagnitude_lt
    rw [Binary64.infinity, Binary64.magnitude_ofMagnitude hlt, Binary64.isNegative_ofMagnitude hlt]
    exact ⟨le_rfl, by omega, rfl⟩
  · next hne =>
    have hgreater : infinityMagnitude < x.magnitude := by omega
    obtain ⟨hnan, hlt⟩ := widened_nan_bounds hgreater
    obtain ⟨hquiet, hsign⟩ := Binary64.magnitude_quiet (Binary64.ofMagnitude x.isNegative
      (Binary64.infinityMagnitude + (x.magnitude - infinityMagnitude) * twoPow 29))
    rw [Binary64.magnitude_ofMagnitude hlt] at hquiet
    rw [Binary64.isNegative_ofMagnitude hlt] at hsign
    exact ⟨by omega, ⟨fun _ => hgreater, fun _ => by omega⟩, hsign⟩

theorem isNegative_widen (x : Binary32) : x.widen.isNegative = x.isNegative := by
  rcases Nat.lt_or_ge x.magnitude infinityMagnitude with hlt | hle
  · obtain ⟨-, hsign, -⟩ := Binary64.read_eq_finite_iff.mp (read_widen hlt)
    exact hsign.symm
  · exact (widen_of_le hle).2.2

theorem isNaN_widen (x : Binary32) : x.widen.isNaN = x.isNaN := by
  unfold Binary64.isNaN isNaN
  rw [decide_eq_decide]
  rcases Nat.lt_or_ge x.magnitude infinityMagnitude with hlt | hle
  · obtain ⟨hfinite, -, -⟩ := Binary64.read_eq_finite_iff.mp (read_widen hlt)
    omega
  · exact (widen_of_le hle).2.1

theorem value?_widen (x : Binary32) : x.widen.value? = x.value? := by
  rcases Nat.lt_or_ge x.magnitude infinityMagnitude with hlt | hle
  · obtain ⟨q, hq, hunits⟩ := Binary64.value?_of_read (read_widen hlt)
    rw [hq, eq_comm, value?_eq_some_iff]
    refine ⟨hlt, ?_⟩
    have hexponent : 1074 = 149 + 925 := rfl
    have hsplit : Binary64.unitsPerOne = twoPow 149 * twoPow 925 := by
      rw [Binary64.unitsPerOne_eq, hexponent, twoPow_add]
    have hpos : ((twoPow 925 : Nat) : ℚ) ≠ 0 := Nat.cast_ne_zero.mpr (twoPow_pos 925).ne'
    refine mul_right_cancel₀ hpos ?_
    calc q * (twoPow 149 : Nat) * (twoPow 925 : Nat)
        = (signed x.isNegative (unitsOf 23 x.magnitude * twoPow 925) : ℤ) := by
          rw [mul_assoc, ← Nat.cast_mul, ← hsplit, hunits]
      _ = (signed x.isNegative (unitsOf 23 x.magnitude) : ℤ) * (twoPow 925 : Nat) := by
          rw [Binary64.signed_mul, Int.cast_mul]
          exact congrArg _ (Int.cast_natCast _)
  · rw [value?_eq_none_iff.mpr hle, Binary64.value?_eq_none_iff]
    exact (widen_of_le hle).1

/-! ## The number one -/

theorem widen_eq_one_iff : x.widen = .one ↔ x = ⟨0x3f800000⟩ := by
  constructor
  · intro h
    have hvalue : x.value? = some 1 := by
      rw [← value?_widen, h, Binary64.one, Binary64.value?_ofInt (by decide)]
      rfl
    obtain ⟨hlt, hunits⟩ := value?_eq_some_iff.mp hvalue
    have hone : unitsOf 23 (126 * twoPow 23 + twoPow 23) = twoPow 149 := unitsOf_least 126
    have hsigned : signed x.isNegative (unitsOf 23 x.magnitude) =
        signed false (unitsOf 23 (126 * twoPow 23 + twoPow 23)) := by
      rw [one_mul] at hunits
      rw [hone, ← Int.cast_inj (α := ℚ), ← hunits]
      rfl
    have hne : signed x.isNegative (unitsOf 23 x.magnitude) ≠ 0 := by
      rw [hsigned, hone]
      exact Int.natCast_ne_zero.mpr (twoPow_pos 149).ne'
    obtain ⟨hsign, hmagnitude⟩ := Binary64.signed_inj hsigned hne
    exact eq_of_magnitude hsign ((unitsOf_strictMono 23).injective hmagnitude)
  · rintro rfl
    decide +kernel

end Binary32

end StreamScalar
