import StreamScalar.Proofs.Binary64.HalfUp
import StreamScalar.Proofs.Function.Math

/-!
# The function `round`

* `execute_round` : on every double that its argument comes to, `round` answers the exact whole number
  half up, cut to the bounds of its return type.
-/

namespace StreamScalar

namespace MathFunction

theorem toInt_toInt64_roundHalfUp (x : Binary64) :
    x.roundHalfUp.toInt64.toInt = x.halfUp (-2 ^ 63) (2 ^ 63 - 1) := by
  obtain ⟨hleast, hgreatest⟩ := x.halfUp_mem (show (-2 ^ 63 : ℤ) ≤ 0 by norm_num)
    (show (0 : ℤ) ≤ 2 ^ 63 - 1 by norm_num)
  rw [Binary64.toInt64, Binary64.truncateInto_roundHalfUp, Int64.toInt_minValue,
    Int64.toInt_maxValue]
  exact Int64.toInt_ofInt_of_le hleast (by omega)

theorem toInt_toInt32_roundHalfUp (x : Binary64) :
    x.roundHalfUp.toInt32.toInt = x.halfUp (-2 ^ 31) (2 ^ 31 - 1) := by
  obtain ⟨hleast, hgreatest⟩ := x.halfUp_mem (show (-2 ^ 31 : ℤ) ≤ 0 by norm_num)
    (show (0 : ℤ) ≤ 2 ^ 31 - 1 by norm_num)
  rw [Binary64.toInt32, Binary64.truncateInto_roundHalfUp, Int32.toInt_minValue,
    Int32.toInt_maxValue]
  exact Int32.toInt_ofInt_of_le hleast (by omega)

variable {f : MathFunction} {type : AttributeType} {data : Row} {x : Binary64}

theorem execute_eq_rounded (hkind : f.kind = .round) (hf : f.IsValidated [type])
    (hx : coerceToDouble (data[0]?).join type = .ok x) :
    f.execute data = .ok (rounded (Kind.round.returnType [type]) x) := by
  have hargument : numericArgument f.displayName data 0 ([type].getD 0 .object) = .ok x :=
    numericArgument_of_coerceToDouble hx
  unfold execute evaluate
  rw [hf.1, hkind]
  dsimp only
  rw [hargument]
  rfl

/-- **`round` is exact.** Whatever double `x` its argument comes to, the answer is `⌊x + 1 / 2⌋` in
exact arithmetic, cut to the 64-bit numbers if a `DOUBLE` is declared and to the 32-bit numbers if a
`FLOAT` is; the infinities give the bounds, and what is not a number gives zero. -/
theorem execute_round (hkind : f.kind = .round) (hf : f.IsValidated [type])
    (hx : coerceToDouble (data[0]?).join type = .ok x) :
    (type = .double ∧ ∃ n : Int64, f.execute data = .ok (.long n) ∧
      n.toInt = x.halfUp (-2 ^ 63) (2 ^ 63 - 1)) ∨
    (type = .float ∧ ∃ n : Int32, f.execute data = .ok (.int n) ∧
      n.toInt = x.halfUp (-2 ^ 31) (2 ^ 31 - 1)) := by
  have hexecute := execute_eq_rounded hkind hf hx
  obtain ⟨-, haccepted⟩ := accepts_iff.mp hf.2
  have hfloating : type ∈ Kind.round.accepted := hkind ▸ haccepted type List.mem_cons_self
  rcases List.mem_pair.mp hfloating with rfl | rfl
  · exact Or.inr ⟨rfl, _, hexecute, toInt_toInt32_roundHalfUp x⟩
  · exact Or.inl ⟨rfl, _, hexecute, toInt_toInt64_roundHalfUp x⟩

/-- The largest double below one half: half a one added to it would round up to one. -/
theorem execute_round_below_tie :
    let f := ((create .round).validate [.attributeAt 0 .double] {}).next
    let x : Binary64 := ⟨0x3fdfffffffffffff⟩
    f.IsValidated [.double] ∧ coerceToDouble (some (.double x)) .double = .ok x ∧
      f.execute [some (.double x)] = .ok (.long 0) ∧ x.halfUp (-2 ^ 63) (2 ^ 63 - 1) = 0 := by
  intro f x
  have hf : f.IsValidated [.double] := isValidated_of_validate rfl
  have hx : coerceToDouble (some (.double x)) .double = .ok x := rfl
  have hexecute : f.execute [some (.double x)] = .ok (.long 0) := by decide +kernel
  have hread : coerceToDouble (([some (.double x)] : Row)[0]?).join .double = .ok x := hx
  rcases execute_round rfl hf hread with ⟨-, n, hn, hhalfUp⟩ | ⟨htype, -⟩
  · rw [hexecute] at hn
    cases hn
    exact ⟨hf, hx, hexecute, hhalfUp.symm⟩
  · cases htype

end MathFunction

end StreamScalar
