import Mathlib.Data.Rat.Floor
import Mathlib.Order.Monotone.Basic
import Mathlib.Tactic.FieldSimp
import Mathlib.Tactic.Linarith
import Mathlib.Tactic.Positivity
import Mathlib.Tactic.Ring
import StreamScalar.Binary64

/-!
# The one rounding step

Magnitude bits name the multiples of the smallest positive number that a format has, in ascending
order (`unitsOf_strictMono`). `Rounds q m` says of a rational number of units that it lies no further
than half way from `m` towards either neighbour, and half way only if the significand of `m` is even.
That is what `nearestMagnitude` finds, and all that is used of it later.

* `rounds_uncut` : the rounding step rounds.
* `Rounds.le_of_le`, `Rounds.eq_of_eq` : it is monotone, and keeps what the format has.
* `Rounds.abs_sub_le`, `Rounds.even_of_eq` : nothing that the format has is nearer, and a tie goes to
  the even significand.
-/

namespace StreamScalar

theorem twoPow_pos (exponent : Nat) : 0 < twoPow exponent :=
  Nat.two_pow_pos exponent

theorem twoPow_add (a b : Nat) : twoPow (a + b) = twoPow a * twoPow b :=
  Nat.pow_add 2 a b

theorem twoPow_succ (exponent : Nat) : twoPow (exponent + 1) = 2 * twoPow exponent := by
  rw [twoPow_add, Nat.mul_comm]

theorem twoPow_lt_twoPow_iff {a b : Nat} : twoPow a < twoPow b ↔ a < b :=
  Nat.pow_lt_pow_iff_right (by decide)

theorem twoPow_le_twoPow {a b : Nat} (h : a ≤ b) : twoPow a ≤ twoPow b :=
  Nat.pow_le_pow_right (by decide) h

theorem twoPow_dvd_twoPow {a b : Nat} (h : a ≤ b) : twoPow a ∣ twoPow b :=
  Nat.pow_dvd_pow 2 h

/-! ## The numbers of a format -/

section Format

variable {fractionBits : Nat}

theorem unitsOf_of_div (exponent : Nat) {magnitude : Nat}
    (h : magnitude / twoPow fractionBits - 1 = exponent) :
    unitsOf fractionBits magnitude =
      (magnitude - exponent * twoPow fractionBits) * twoPow exponent := by
  subst h
  rfl

/-- A significand and an exponent, a significand of one bit too many included: it is the least one of
the next exponent. -/
theorem unitsOf_significand {exponent significand : Nat}
    (hnormal : exponent = 0 ∨ twoPow fractionBits ≤ significand)
    (hle : significand ≤ 2 * twoPow fractionBits) :
    unitsOf fractionBits (exponent * twoPow fractionBits + significand) =
      significand * twoPow exponent := by
  have hpos := twoPow_pos fractionBits
  have hdiv : (exponent * twoPow fractionBits + significand) / twoPow fractionBits =
      exponent + significand / twoPow fractionBits := by
    rw [Nat.mul_comm, Nat.mul_add_div hpos]
  rcases Nat.lt_or_ge significand (twoPow fractionBits) with hsub | hge
  · obtain rfl : exponent = 0 := by omega
    rw [Nat.div_eq_of_lt hsub] at hdiv
    rw [unitsOf_of_div 0 (by omega)]
    simp
  rcases Nat.lt_or_ge significand (2 * twoPow fractionBits) with hlt | hover
  · have hone : significand / twoPow fractionBits = 1 :=
      Nat.div_eq_of_lt_le (by omega) (by omega)
    rw [unitsOf_of_div exponent (by omega), Nat.add_sub_cancel_left]
  · obtain rfl : significand = 2 * twoPow fractionBits := by omega
    rw [Nat.mul_div_cancel _ hpos] at hdiv
    have hleft : exponent * twoPow fractionBits + 2 * twoPow fractionBits -
        (exponent + 1) * twoPow fractionBits = twoPow fractionBits := by
      rw [Nat.succ_mul exponent]
      omega
    rw [unitsOf_of_div (exponent + 1) (by omega), hleft, twoPow_succ]
    ring

theorem unitsOf_least (exponent : Nat) :
    unitsOf fractionBits (exponent * twoPow fractionBits + twoPow fractionBits) =
      twoPow (fractionBits + exponent) := by
  rw [unitsOf_significand (Or.inr le_rfl) (by omega), twoPow_add]

theorem exists_significand (fractionBits magnitude : Nat) :
    ∃ exponent significand, magnitude = exponent * twoPow fractionBits + significand ∧
      (exponent = 0 ∨ twoPow fractionBits ≤ significand) ∧
      significand < 2 * twoPow fractionBits := by
  have hpos := twoPow_pos fractionBits
  have hdiv := Nat.div_add_mod' magnitude (twoPow fractionBits)
  have hmod := Nat.mod_lt magnitude hpos
  rcases Nat.eq_zero_or_pos (magnitude / twoPow fractionBits) with hzero | hnormal
  · exact ⟨0, magnitude, by omega, Or.inl rfl, by rw [hzero] at hdiv; omega⟩
  · obtain ⟨exponent, hexponent⟩ := Nat.exists_eq_add_of_lt hnormal
    have hsplit : magnitude / twoPow fractionBits * twoPow fractionBits =
        exponent * twoPow fractionBits + twoPow fractionBits := by
      rw [hexponent, Nat.zero_add, Nat.succ_mul]
    exact ⟨exponent, twoPow fractionBits + magnitude % twoPow fractionBits, by omega,
      Or.inr (by omega), by omega⟩

theorem unitsOf_lt_succ (fractionBits magnitude : Nat) :
    unitsOf fractionBits magnitude < unitsOf fractionBits (magnitude + 1) := by
  obtain ⟨exponent, significand, rfl, hnormal, hlt⟩ := exists_significand fractionBits magnitude
  rw [Nat.add_assoc, unitsOf_significand hnormal hlt.le,
    unitsOf_significand (by omega) (by omega)]
  exact Nat.mul_lt_mul_of_pos_right (Nat.lt_succ_self _) (twoPow_pos _)

theorem unitsOf_strictMono (fractionBits : Nat) : StrictMono (unitsOf fractionBits) :=
  strictMono_nat_of_lt_succ (unitsOf_lt_succ fractionBits)

@[simp] theorem unitsOf_zero (fractionBits : Nat) : unitsOf fractionBits 0 = 0 := by
  simp [unitsOf]

theorem exists_unitsOf_eq (exponent : Nat) {significand : Nat}
    (hle : significand ≤ 2 * twoPow fractionBits) :
    ∃ magnitude, unitsOf fractionBits magnitude = significand * twoPow exponent := by
  induction exponent generalizing significand with
  | zero => exact ⟨_, unitsOf_significand (Or.inl rfl) hle⟩
  | succ exponent ih =>
    rcases Nat.lt_or_ge (twoPow fractionBits) significand with hnormal | hsmall
    · exact ⟨_, unitsOf_significand (Or.inr hnormal.le) hle⟩
    · -- a significand that is too small is doubled at the cost of one exponent
      obtain ⟨magnitude, hmagnitude⟩ := ih (show 2 * significand ≤ 2 * twoPow fractionBits by omega)
      refine ⟨magnitude, ?_⟩
      rw [hmagnitude, twoPow_succ]
      ring

theorem twoPow_dvd_unitsOf {magnitude exponent : Nat}
    (h : twoPow (fractionBits + exponent) ≤ unitsOf fractionBits magnitude) :
    twoPow exponent ∣ unitsOf fractionBits magnitude := by
  obtain ⟨k, significand, rfl, hnormal, hlt⟩ := exists_significand fractionBits magnitude
  rw [unitsOf_significand hnormal hlt.le] at h ⊢
  have hbound : twoPow (fractionBits + exponent) < twoPow (fractionBits + 1 + k) := by
    rw [twoPow_add (fractionBits + 1), twoPow_succ]
    exact h.trans_lt (Nat.mul_lt_mul_of_pos_right hlt (twoPow_pos _))
  have hle : exponent ≤ k := by
    have := twoPow_lt_twoPow_iff.mp hbound
    omega
  exact Dvd.dvd.mul_left (twoPow_dvd_twoPow hle) significand

end Format

/-! ## Rounding a quotient to a whole number -/

section RoundQuotient

variable {a b n : Nat}

theorem le_roundQuotient (hb : 0 < b) (h : n * b ≤ a) : n ≤ roundQuotient a b := by
  have hdiv : n ≤ a / b := (Nat.le_div_iff_mul_le hb).mpr h
  unfold roundQuotient
  dsimp only
  split <;> omega

theorem roundQuotient_le (hb : 0 < b) (h : a ≤ n * b) : roundQuotient a b ≤ n := by
  have hdiv := Nat.div_add_mod a b
  have hle : a / b ≤ n := Nat.div_le_of_le_mul (by rw [Nat.mul_comm]; exact h)
  unfold roundQuotient
  dsimp only
  split
  · exact hle
  · next hup =>
    rcases hle.lt_or_eq with hlt | heq
    · exact hlt
    · rw [heq, Nat.mul_comm b] at hdiv
      omega

theorem two_mul_le_roundQuotient (hb : 0 < b) :
    2 * a ≤ (2 * roundQuotient a b + 1) * b ∧
      (2 * a = (2 * roundQuotient a b + 1) * b → roundQuotient a b % 2 = 0) := by
  have hdiv := Nat.div_add_mod a b
  have hmod := Nat.mod_lt a hb
  unfold roundQuotient
  dsimp only
  split
  · next hdown =>
    have hexpand : (2 * (a / b) + 1) * b = 2 * (b * (a / b)) + b := by ring
    omega
  · next hup =>
    have hexpand : (2 * (a / b + 1) + 1) * b = 2 * (b * (a / b)) + 3 * b := by ring
    omega

theorem roundQuotient_le_two_mul (hb : 0 < b) :
    2 * roundQuotient a b * b ≤ 2 * a + b ∧
      (2 * roundQuotient a b * b = 2 * a + b → roundQuotient a b % 2 = 0) := by
  have hdiv := Nat.div_add_mod a b
  have hmod := Nat.mod_lt a hb
  unfold roundQuotient
  dsimp only
  split
  · next hdown =>
    have hexpand : 2 * (a / b) * b = 2 * (b * (a / b)) := by ring
    omega
  · next hup =>
    have hexpand : 2 * (a / b + 1) * b = 2 * (b * (a / b)) + 2 * b := by ring
    omega

end RoundQuotient

namespace Binary64

/-! ## What it means to round -/

/-- A number of units lies no further than half way from a magnitude towards its neighbours, and half
way only if the significand is even. -/
structure Rounds (units : ℚ) (magnitude : Nat) : Prop where
  above : 2 * units ≤ unitsOf 52 magnitude + unitsOf 52 (magnitude + 1)
  even_above : 2 * units = unitsOf 52 magnitude + unitsOf 52 (magnitude + 1) → magnitude % 2 = 0
  below : ∀ n, n + 1 = magnitude → (unitsOf 52 n + unitsOf 52 magnitude : ℚ) ≤ 2 * units
  even_below : ∀ n, n + 1 = magnitude → (unitsOf 52 n + unitsOf 52 magnitude : ℚ) = 2 * units →
    magnitude % 2 = 0

theorem unitsOf_cast_le {m n : Nat} (h : m ≤ n) : (unitsOf 52 m : ℚ) ≤ unitsOf 52 n := by
  exact_mod_cast (unitsOf_strictMono 52).monotone h

theorem unitsOf_cast_lt {m n : Nat} (h : m < n) : (unitsOf 52 m : ℚ) < unitsOf 52 n := by
  exact_mod_cast unitsOf_strictMono 52 h

namespace Rounds

variable {q r : ℚ} {m n : Nat}

theorem half_way_above (h : Rounds q m) (hlt : m < n) :
    2 * q ≤ unitsOf 52 m + unitsOf 52 n := by
  have hnext := unitsOf_cast_le (Nat.succ_le_of_lt hlt)
  linarith [h.above]

theorem half_way_below (h : Rounds q m) (hlt : n < m) :
    (unitsOf 52 n + unitsOf 52 m : ℚ) ≤ 2 * q := by
  obtain ⟨k, rfl⟩ : ∃ k, m = k + 1 := ⟨m - 1, by omega⟩
  have hprevious := unitsOf_cast_le (Nat.le_of_lt_succ hlt)
  linarith [h.below k rfl]

theorem le_of_le (hq : Rounds q m) (hr : Rounds r n) (h : q ≤ r) : m ≤ n := by
  by_contra hlt
  obtain ⟨k, rfl⟩ : ∃ k, m = k + 1 := ⟨m - 1, by omega⟩
  have hbelow := hq.below k rfl
  have habove := hr.above
  have hk : (unitsOf 52 n : ℚ) ≤ unitsOf 52 k := unitsOf_cast_le (by omega)
  have hnext : (unitsOf 52 (n + 1) : ℚ) ≤ unitsOf 52 (k + 1) := unitsOf_cast_le (by omega)
  -- both numbers lie half way between neighbours, which cannot both have an even significand
  have heven := hq.even_below k rfl (by linarith)
  have heven' := hr.even_above (by linarith)
  have hsame : n = k := by
    by_contra hne
    have hstrict : (unitsOf 52 n : ℚ) < unitsOf 52 k := unitsOf_cast_lt (by omega)
    linarith
  omega

theorem eq_of_eq (h : Rounds (unitsOf 52 n) m) : m = n := by
  rcases Nat.lt_trichotomy m n with hlt | heq | hgt
  · have hhalf := h.half_way_above hlt
    have hstrict := unitsOf_cast_lt hlt
    linarith
  · exact heq
  · have hhalf := h.half_way_below hgt
    have hstrict := unitsOf_cast_lt hgt
    linarith

theorem abs_sub_le (h : Rounds q m) (n : Nat) : |q - unitsOf 52 m| ≤ |q - unitsOf 52 n| := by
  rcases Nat.lt_trichotomy m n with hlt | rfl | hgt
  · have hhalf := h.half_way_above hlt
    have hstrict := unitsOf_cast_lt hlt
    rw [abs_sub_comm q (unitsOf 52 n), abs_of_nonneg (a := (unitsOf 52 n : ℚ) - q) (by linarith)]
    exact abs_le.mpr ⟨by linarith, by linarith⟩
  · exact le_rfl
  · have hhalf := h.half_way_below hgt
    have hstrict := unitsOf_cast_lt hgt
    rw [abs_of_nonneg (a := q - unitsOf 52 n) (by linarith)]
    exact abs_le.mpr ⟨by linarith, by linarith⟩

/-- Another number of the format that is as near lies beyond a tie. -/
theorem even_of_eq (h : Rounds q m) (hne : n ≠ m)
    (heq : |q - unitsOf 52 n| = |q - unitsOf 52 m|) : m % 2 = 0 := by
  rcases Nat.lt_trichotomy m n with hlt | rfl | hgt
  · have hnext := unitsOf_cast_le (Nat.succ_le_of_lt hlt)
    have hstrict := unitsOf_cast_lt hlt
    have htie : 2 * q = unitsOf 52 m + unitsOf 52 n := by
      rcases abs_eq_abs.mp heq with hsame | hopposite
      · linarith
      · linarith
    exact h.even_above (by linarith [h.above])
  · exact absurd rfl hne
  · obtain ⟨k, rfl⟩ : ∃ k, m = k + 1 := ⟨m - 1, by omega⟩
    have hprevious := unitsOf_cast_le (Nat.le_of_lt_succ hgt)
    have hstrict := unitsOf_cast_lt hgt
    have htie : 2 * q = unitsOf 52 n + unitsOf 52 (k + 1) := by
      rcases abs_eq_abs.mp heq with hsame | hopposite
      · linarith
      · linarith
    exact h.even_below k rfl (by linarith [h.below k rfl])

end Rounds

/-! ## The rounding step -/

/-- The magnitude that `nearestMagnitude` finds before it is cut to the one of infinity. -/
def uncutMagnitude (a b : Nat) : Nat :=
  let shift := Nat.log2 (a / b) - 52
  shift * twoPow 52 + roundQuotient a (b * twoPow shift)

theorem nearestMagnitude_eq_min (a b : Nat) :
    nearestMagnitude a b = min infinityMagnitude (uncutMagnitude a b) :=
  rfl

/-- The quotient that is rounded is a significand of 53 bits, unless the exponent is the least. -/
theorem roundQuotient_bounds {a b : Nat} (hb : 0 < b) :
    let shift := Nat.log2 (a / b) - 52
    (shift = 0 ∨ twoPow (52 + shift) * b ≤ a) ∧
      (shift = 0 ∨ twoPow 52 ≤ roundQuotient a (b * twoPow shift)) ∧
      roundQuotient a (b * twoPow shift) ≤ 2 * twoPow 52 := by
  intro shift
  have hpos : 0 < b * twoPow shift := Nat.mul_pos hb (twoPow_pos _)
  have hlow : shift = 0 ∨ twoPow (52 + shift) * b ≤ a := by
    rcases Nat.eq_zero_or_pos shift with hzero | hshift
    · exact Or.inl hzero
    · have hlog : 52 + shift = Nat.log2 (a / b) := by omega
      have hne : a / b ≠ 0 := by
        intro hzero
        rw [hzero] at hlog
        simp at hlog
      refine Or.inr ((Nat.le_div_iff_mul_le hb).mp ?_)
      rw [hlog]
      exact Nat.log2_self_le hne
  have hhigh : a ≤ 2 * twoPow 52 * (b * twoPow shift) := by
    have hlog : a / b < twoPow (53 + shift) :=
      Nat.lt_log2_self.trans_le (twoPow_le_twoPow (by omega))
    have hquotient := (Nat.div_lt_iff_lt_mul hb).mp hlog
    rw [twoPow_add, twoPow_succ 52] at hquotient
    linarith [Nat.mul_assoc (2 * twoPow 52) (twoPow shift) b, Nat.mul_comm b (twoPow shift)]
  refine ⟨hlow, hlow.imp_right fun hle => le_roundQuotient hpos ?_, roundQuotient_le hpos hhigh⟩
  rw [twoPow_add] at hle
  linarith [Nat.mul_assoc (twoPow 52) (twoPow shift) b, Nat.mul_comm b (twoPow shift)]

theorem succ_mul_le_unitsOf {shift significand : Nat} (hnormal : shift = 0 ∨ twoPow 52 ≤ significand)
    (hle : significand ≤ 2 * twoPow 52) :
    (significand + 1) * twoPow shift ≤ unitsOf 52 (shift * twoPow 52 + significand + 1) := by
  rcases hle.lt_or_eq with hlt | rfl
  · rw [Nat.add_assoc, unitsOf_significand (by omega) (by omega)]
  · have hcarry : shift * twoPow 52 + 2 * twoPow 52 + 1 =
        (shift + 1) * twoPow 52 + (twoPow 52 + 1) := by
      ring
    have hpos := twoPow_pos 52
    rw [hcarry, unitsOf_significand (by omega) (by omega), twoPow_succ shift, ← Nat.mul_assoc]
    exact Nat.mul_le_mul_right _ (by omega)

theorem unitsOf_pred {shift significand n : Nat} (hnormal : shift = 0 ∨ twoPow 52 ≤ significand)
    (hle : significand ≤ 2 * twoPow 52) (hn : n + 1 = shift * twoPow 52 + significand) :
    (shift ≠ 0 ∧ significand = twoPow 52) ∨ unitsOf 52 n + twoPow shift = significand * twoPow shift := by
  by_cases hleast : shift ≠ 0 ∧ significand = twoPow 52
  · exact Or.inl hleast
  · have hpos := twoPow_pos 52
    have hsignificand : 0 < significand := by
      rcases hnormal with rfl | hnormal
      · omega
      · omega
    obtain ⟨k, rfl⟩ : ∃ k, significand = k + 1 := ⟨significand - 1, by omega⟩
    obtain rfl : n = shift * twoPow 52 + k := by omega
    rw [unitsOf_significand (by omega) (by omega)]
    exact Or.inr (Nat.succ_mul k _).symm

section Quotient

variable {a b shift significand : Nat}

theorem half_way_above_of_roundQuotient (hb : 0 < b)
    (hround : roundQuotient a (b * twoPow shift) = significand)
    (hnormal : shift = 0 ∨ twoPow 52 ≤ significand) (hle : significand ≤ 2 * twoPow 52) :
    2 * a ≤ (unitsOf 52 (shift * twoPow 52 + significand) +
        unitsOf 52 (shift * twoPow 52 + significand + 1)) * b ∧
      (2 * a = (unitsOf 52 (shift * twoPow 52 + significand) +
        unitsOf 52 (shift * twoPow 52 + significand + 1)) * b → significand % 2 = 0) := by
  have hpos : 0 < b * twoPow shift := Nat.mul_pos hb (twoPow_pos _)
  obtain ⟨hup, heven⟩ := two_mul_le_roundQuotient (a := a) hpos
  rw [hround] at hup heven
  have hnext := succ_mul_le_unitsOf hnormal hle
  rw [unitsOf_significand hnormal hle]
  have hspacing : (2 * significand + 1) * (b * twoPow shift) =
      (significand * twoPow shift + (significand + 1) * twoPow shift) * b := by
    ring
  have hsum : (2 * significand + 1) * (b * twoPow shift) ≤
      (significand * twoPow shift + unitsOf 52 (shift * twoPow 52 + significand + 1)) * b := by
    rw [hspacing]
    exact Nat.mul_le_mul_right b (Nat.add_le_add_left hnext _)
  exact ⟨hup.trans hsum, fun heq => heven (le_antisymm hup (heq ▸ hsum))⟩

theorem half_way_below_of_roundQuotient (hb : 0 < b)
    (hround : roundQuotient a (b * twoPow shift) = significand)
    (hlow : shift = 0 ∨ twoPow (52 + shift) * b ≤ a)
    (hnormal : shift = 0 ∨ twoPow 52 ≤ significand) (hle : significand ≤ 2 * twoPow 52)
    {n : Nat} (hn : n + 1 = shift * twoPow 52 + significand) :
    (unitsOf 52 n + unitsOf 52 (shift * twoPow 52 + significand)) * b ≤ 2 * a ∧
      ((unitsOf 52 n + unitsOf 52 (shift * twoPow 52 + significand)) * b = 2 * a →
        significand % 2 = 0) := by
  have hpos : 0 < b * twoPow shift := Nat.mul_pos hb (twoPow_pos _)
  obtain ⟨hdown, heven⟩ := roundQuotient_le_two_mul (a := a) hpos
  rw [hround] at hdown heven
  have hunits : unitsOf 52 (shift * twoPow 52 + significand) = significand * twoPow shift :=
    unitsOf_significand hnormal hle
  rcases unitsOf_pred hnormal hle hn with ⟨hshift, rfl⟩ | hpred
  · -- the spacing is finer below, but the quotient does not lie below
    have hpredecessor : unitsOf 52 n ≤ twoPow 52 * twoPow shift := by
      rw [← hunits, ← hn]
      exact (unitsOf_lt_succ 52 n).le
    have hquotient := hlow.resolve_left hshift
    rw [twoPow_add] at hquotient
    rw [hunits]
    have hsum := Nat.mul_le_mul_right b (Nat.add_le_add_right hpredecessor (twoPow 52 * twoPow shift))
    rw [← Nat.two_mul, Nat.mul_assoc] at hsum
    exact ⟨by omega, fun _ => rfl⟩
  · have hspacing : (unitsOf 52 n + significand * twoPow shift) * b + b * twoPow shift =
        2 * significand * (b * twoPow shift) := by
      calc (unitsOf 52 n + significand * twoPow shift) * b + b * twoPow shift
          = (unitsOf 52 n + twoPow shift + significand * twoPow shift) * b := by ring
        _ = 2 * significand * (b * twoPow shift) := by rw [hpred]; ring
    rw [hunits]
    exact ⟨by omega, fun heq => heven (by omega)⟩

end Quotient

theorem two_mul_div_le_iff {a b c : Nat} (hb : 0 < b) :
    2 * ((a : ℚ) / b) ≤ c ↔ 2 * a ≤ c * b := by
  rw [← mul_div_assoc, div_le_iff₀ (by exact_mod_cast hb)]
  exact_mod_cast Iff.rfl

theorem le_two_mul_div_iff {a b c : Nat} (hb : 0 < b) :
    (c : ℚ) ≤ 2 * ((a : ℚ) / b) ↔ c * b ≤ 2 * a := by
  rw [← mul_div_assoc, le_div_iff₀ (by exact_mod_cast hb)]
  exact_mod_cast Iff.rfl

theorem two_mul_div_eq_iff {a b c : Nat} (hb : 0 < b) :
    2 * ((a : ℚ) / b) = c ↔ 2 * a = c * b := by
  rw [le_antisymm_iff, two_mul_div_le_iff hb, le_two_mul_div_iff hb, ← le_antisymm_iff]

theorem rounds_uncut {a b : Nat} (hb : 0 < b) : Rounds ((a : ℚ) / b) (uncutMagnitude a b) := by
  obtain ⟨hlow, hnormal, hle⟩ := roundQuotient_bounds (a := a) hb
  unfold uncutMagnitude
  dsimp only at hlow hnormal hle ⊢
  generalize Nat.log2 (a / b) - 52 = shift at hlow hnormal hle ⊢
  obtain ⟨significand, hround⟩ : ∃ n, roundQuotient a (b * twoPow shift) = n := ⟨_, rfl⟩
  rw [hround] at hnormal hle ⊢
  have hparity : (shift * twoPow 52 + significand) % 2 = significand % 2 := by
    have htwo : twoPow 52 = 2 * twoPow 51 := twoPow_succ 51
    rw [htwo, Nat.mul_left_comm]
    omega
  obtain ⟨habove, hevenAbove⟩ := half_way_above_of_roundQuotient hb hround hnormal hle
  have hbelow := fun n => half_way_below_of_roundQuotient (n := n) hb hround hlow hnormal hle
  refine ⟨?_, fun heq => ?_, fun n hn => ?_, fun n hn heq => ?_⟩
  · rw [← Nat.cast_add, two_mul_div_le_iff hb]
    exact habove
  · rw [← Nat.cast_add, two_mul_div_eq_iff hb] at heq
    rw [hparity]
    exact hevenAbove heq
  · rw [← Nat.cast_add, le_two_mul_div_iff hb]
    exact (hbelow n hn).1
  · rw [← Nat.cast_add, eq_comm, two_mul_div_eq_iff hb] at heq
    rw [hparity]
    exact (hbelow n hn).2 heq.symm

theorem rounds_nearestMagnitude {a b : Nat} (hb : 0 < b)
    (h : nearestMagnitude a b < infinityMagnitude) : Rounds ((a : ℚ) / b) (nearestMagnitude a b) := by
  rw [nearestMagnitude_eq_min] at h ⊢
  have huncut : min infinityMagnitude (uncutMagnitude a b) = uncutMagnitude a b := by omega
  rw [huncut]
  exact rounds_uncut hb

theorem nearestMagnitude_mono {a b a' b' : Nat} (hb : 0 < b) (hb' : 0 < b')
    (h : (a : ℚ) / b ≤ a' / b') : nearestMagnitude a b ≤ nearestMagnitude a' b' :=
  min_le_min_left _ ((rounds_uncut hb).le_of_le (rounds_uncut hb') h)

/-- A quotient that is a number of the format, infinity in the place of the next power of two
included, is not changed. -/
theorem nearestMagnitude_unitsOf_mul {b magnitude : Nat} (hb : 0 < b)
    (hle : magnitude ≤ infinityMagnitude) :
    nearestMagnitude (unitsOf 52 magnitude * b) b = magnitude := by
  have hrounds := rounds_uncut (a := unitsOf 52 magnitude * b) hb
  have hpos : (b : ℚ) ≠ 0 := by exact_mod_cast hb.ne'
  rw [Nat.cast_mul, mul_div_cancel_right₀ _ hpos] at hrounds
  rw [nearestMagnitude_eq_min, hrounds.eq_of_eq]
  exact min_eq_right hle

theorem nearestMagnitude_unitsOf {magnitude : Nat} (hle : magnitude ≤ infinityMagnitude) :
    nearestMagnitude (unitsOf 52 magnitude) 1 = magnitude := by
  have h := nearestMagnitude_unitsOf_mul Nat.one_pos hle
  rwa [Nat.mul_one] at h

theorem nearestMagnitude_le_infinityMagnitude (a b : Nat) :
    nearestMagnitude a b ≤ infinityMagnitude :=
  min_le_left _ _

/-! ## Numbers of units that are doubles -/

/-- The number of units of a finite double. -/
def Representable (units : Nat) : Prop :=
  ∃ magnitude < infinityMagnitude, unitsOf 52 magnitude = units

theorem unitsOf_infinityMagnitude : unitsOf 52 infinityMagnitude = twoPow 2098 := by
  have hsplit : infinityMagnitude = 2046 * twoPow 52 + twoPow 52 := rfl
  have hexponent : 2098 = 52 + 2046 := rfl
  rw [hsplit, unitsOf_least, hexponent]

theorem representable_iff_lt {magnitude : Nat} :
    Representable (unitsOf 52 magnitude) ↔ magnitude < infinityMagnitude := by
  constructor
  · rintro ⟨other, hlt, hunits⟩
    rwa [← (unitsOf_strictMono 52).injective hunits]
  · exact fun hlt => ⟨magnitude, hlt, rfl⟩

theorem representable_mul_twoPow {significand exponent : Nat} (hle : significand ≤ twoPow 53)
    (hlt : significand * twoPow exponent < twoPow 2098) :
    Representable (significand * twoPow exponent) := by
  rw [twoPow_succ 52] at hle
  obtain ⟨magnitude, hmagnitude⟩ := exists_unitsOf_eq exponent hle
  refine ⟨magnitude, ?_, hmagnitude⟩
  rw [← hmagnitude, ← unitsOf_infinityMagnitude] at hlt
  exact (unitsOf_strictMono 52).lt_iff_lt.mp hlt

theorem representable_twoPow {exponent : Nat} (hlt : exponent < 2098) :
    Representable (twoPow exponent) := by
  rw [← Nat.one_mul (twoPow exponent)]
  refine representable_mul_twoPow (twoPow_pos 53) ?_
  rw [Nat.one_mul]
  exact twoPow_lt_twoPow_iff.mpr hlt

theorem representable_of_dvd {units exponent : Nat} (hdvd : twoPow exponent ∣ units)
    (hlt : units < twoPow (52 + exponent)) (hexponent : 52 + exponent ≤ 2098) :
    Representable units := by
  obtain ⟨n, rfl⟩ := hdvd
  rw [Nat.mul_comm] at hlt ⊢
  have hbound := hlt.trans_le (twoPow_le_twoPow hexponent)
  rw [twoPow_add] at hlt
  have hn : n < twoPow 52 := Nat.lt_of_mul_lt_mul_right hlt
  exact representable_mul_twoPow (hn.le.trans (twoPow_le_twoPow (by omega))) hbound

theorem Representable.unitsOf_nearestMagnitude {units : Nat} (h : Representable units) :
    unitsOf 52 (nearestMagnitude units 1) = units := by
  obtain ⟨magnitude, hlt, rfl⟩ := h
  rw [nearestMagnitude_unitsOf hlt.le]

theorem Representable.nearestMagnitude_lt {units : Nat} (h : Representable units) :
    nearestMagnitude units 1 < infinityMagnitude := by
  obtain ⟨magnitude, hlt, rfl⟩ := h
  rwa [nearestMagnitude_unitsOf hlt.le]

end Binary64

end StreamScalar
