import Mathlib.Tactic.IntervalCases
import Mathlib.Tactic.SplitIfs
import StreamScalar.Text.Utf8

/-!
# Reading UTF-8 undoes writing it, and reads nothing else

`decode_encode`: the octets of a text are read back as the text. The argument follows one character
(`decodeFrom_encodeChar`): its lead octet announces as many octets as follow and leaves out of the
range of the first of them exactly the overlong forms, the surrogates and the numbers past the last
character, none of which is the number of a character.

`eq_encode_of_decode`: octets that are read as a text are the octets of that text. Again one
character at a time (`BeginsWithChar`): what a lead octet and its followers in range spell is the
number of a character, and of one that has as many octets.
-/

namespace StreamScalar

namespace Utf8

theorem octet_toNat {n : Nat} (h : n < 256) : (octet n).toNat = n := by
  simp only [octet, UInt8.toNat_ofNat']
  omega

theorem toNat_range (c : Char) : c.toNat < 0xD800 ∨ 0xDFFF < c.toNat ∧ c.toNat < 0x110000 :=
  c.valid

/-! ## What a lead octet announces -/

theorem lead?_two {k : Nat} (hlow : 2 ≤ k) (hhigh : k < 32) :
    lead? (0xC0 + k) = some ⟨1, 0x80, 0xBF, 1, k⟩ := by
  rw [lead?, if_pos (by omega), Nat.add_sub_cancel_left]

theorem lead?_three {k : Nat} (h : k < 16) :
    lead? (0xE0 + k) =
      some ⟨2, if k = 0 then 0xA0 else 0x80, if k = 13 then 0x9F else 0xBF, 1, k⟩ := by
  interval_cases k <;> rfl

theorem lead?_four {k : Nat} (h : k < 5) :
    lead? (0xF0 + k) =
      some ⟨3, if k = 0 then 0x90 else 0x80, if k = 4 then 0x8F else 0xBF, 1, k⟩ := by
  interval_cases k <;> rfl

/-! ## One octet -/

theorem decodeFrom_lead (index : Nat) {n : Nat} {p : Pending} (rest : List UInt8)
    (hlow : 0x80 ≤ n) (hhigh : n < 256) (hlead : lead? n = some p) :
    decodeFrom index none (octet n :: rest) = decodeFrom index (some p) rest := by
  rw [decodeFrom, octet_toNat hhigh, if_neg (by omega), hlead]

theorem decodeFrom_more (index : Nat) {p : Pending} {n : Nat} (rest : List UInt8)
    (hlow : p.low ≤ n) (hhigh : n ≤ p.high) (hn : n < 256) (howed : 1 < p.owed) :
    decodeFrom index (some p) (octet n :: rest) =
      decodeFrom index (some ⟨p.owed - 1, 0x80, 0xBF, p.seen + 1, p.code * 64 + n % 64⟩) rest := by
  rw [decodeFrom, octet_toNat hn, if_pos ⟨hlow, hhigh⟩]
  exact if_neg (by omega)

theorem decodeFrom_last (index : Nat) {p : Pending} {n : Nat} (rest : List UInt8)
    (hlow : p.low ≤ n) (hhigh : n ≤ p.high) (hn : n < 256) (howed : p.owed ≤ 1) :
    decodeFrom index (some p) (octet n :: rest) =
      (decodeFrom (index + p.seen + 1) none rest).map (Char.ofNat (p.code * 64 + n % 64) :: ·) := by
  rw [decodeFrom, octet_toNat hn, if_pos ⟨hlow, hhigh⟩]
  simp only [if_pos howed]
  rfl

/-! ## One character -/

theorem decodeFrom_encodeChar (index : Nat) (c : Char) (rest : List UInt8) :
    decodeFrom index none (encodeChar c ++ rest) =
      (decodeFrom (index + (encodeChar c).length) none rest).map (c :: ·) := by
  have hrange := toNat_range c
  have hc : Char.ofNat c.toNat = c := Char.ofNat_toNat c
  unfold encodeChar
  generalize c.toNat = n at hrange hc ⊢
  simp only
  split_ifs with h1 h2 h3
  · rw [List.singleton_append, decodeFrom, octet_toNat (by omega), if_pos h1, hc]
    rfl
  · have hcode : n / 64 * 64 + (0x80 + n % 64) % 64 = n := by omega
    rw [List.cons_append, List.singleton_append,
      decodeFrom_lead index _ (by omega) (by omega) (lead?_two (by omega) (by omega)),
      decodeFrom_last index rest (by simp) (by simp; omega) (by omega) (by simp)]
    simp only [hcode, hc]
    rfl
  · have hcode : (n / 4096 * 64 + (0x80 + n / 64 % 64) % 64) * 64 + (0x80 + n % 64) % 64 = n := by
      omega
    rw [List.cons_append, List.cons_append, List.singleton_append,
      decodeFrom_lead index _ (by omega) (by omega) (lead?_three (by omega)),
      decodeFrom_more index _ (by dsimp only; split_ifs <;> omega)
        (by dsimp only; split_ifs <;> omega) (by omega) (by simp),
      decodeFrom_last index rest (by simp) (by simp; omega) (by omega) (by simp)]
    simp only [hcode, hc]
    rfl
  · have hcode : ((n / 262144 * 64 + (0x80 + n / 4096 % 64) % 64) * 64 +
        (0x80 + n / 64 % 64) % 64) * 64 + (0x80 + n % 64) % 64 = n := by
      omega
    rw [List.cons_append, List.cons_append, List.cons_append, List.singleton_append,
      decodeFrom_lead index _ (by omega) (by omega) (lead?_four (by omega)),
      decodeFrom_more index _ (by dsimp only; split_ifs <;> omega)
        (by dsimp only; split_ifs <;> omega) (by omega) (by simp),
      decodeFrom_more index _ (by simp) (by simp; omega) (by omega) (by simp),
      decodeFrom_last index rest (by simp) (by simp; omega) (by omega) (by simp)]
    simp only [hcode, hc]
    rfl

/-! ## A text -/

theorem decodeFrom_flatMap (index : Nat) (cs : List Char) :
    decodeFrom index none (cs.flatMap encodeChar) = .ok cs := by
  induction cs generalizing index with
  | nil => rfl
  | cons c cs ih =>
    rw [List.flatMap_cons, decodeFrom_encodeChar, ih]
    rfl

theorem decode_encode (s : String) : decode (encode s) = .ok s := by
  rw [decode, encode, decodeFrom_flatMap]
  exact congrArg Except.ok String.ofList_toList

/-! ## What is read has been written -/

theorem eq_octet_toNat (b : UInt8) : b = octet b.toNat := by
  rw [octet, UInt8.ofNat_toNat]

theorem toNat_ofNat {n : Nat} (h : n < 0xD800 ∨ 0xDFFF < n ∧ n < 0x110000) :
    (Char.ofNat n).toNat = n := by
  rw [Char.ofNat, dif_pos h]
  rfl

theorem encodeChar_length_pos (c : Char) : 0 < (encodeChar c).length := by
  unfold encodeChar
  simp only
  split_ifs <;> simp

theorem lead?_cases {n : Nat} {p : Pending} (h : lead? n = some p) :
    (∃ k, 2 ≤ k ∧ k < 32 ∧ n = 0xC0 + k) ∨ (∃ k, k < 16 ∧ n = 0xE0 + k) ∨
      ∃ k, k < 5 ∧ n = 0xF0 + k := by
  have hrange : 0xC2 ≤ n ∧ n < 0xF5 := by
    unfold lead? at h
    split_ifs at h
    all_goals omega
  by_cases htwo : n < 0xE0
  · exact Or.inl ⟨n - 0xC0, by omega, by omega, by omega⟩
  · by_cases hthree : n < 0xF0
    · exact Or.inr (Or.inl ⟨n - 0xE0, by omega, by omega⟩)
    · exact Or.inr (Or.inr ⟨n - 0xF0, by omega, by omega⟩)

section Inversion

variable {index k : Nat} {p : Pending} {octets : List UInt8} {cs : List Char}

/-- A character of which octets are owed goes on with an octet in range. -/
theorem exists_of_decodeFrom_pending (h : decodeFrom index (some p) octets = .ok cs) :
    ∃ n rest, p.low ≤ n ∧ n ≤ p.high ∧ n < 256 ∧ octets = octet n :: rest := by
  cases octets with
  | nil => cases h
  | cons b rest =>
    rw [decodeFrom] at h
    split at h
    · next hrange =>
      exact ⟨b.toNat, rest, hrange.1, hrange.2, b.toNat_lt, by rw [← eq_octet_toNat]⟩
    · cases h

theorem exists_of_decodeFrom_more (h : decodeFrom index (some p) octets = .ok cs)
    (howed : 1 < p.owed) :
    ∃ n rest, p.low ≤ n ∧ n ≤ p.high ∧ octets = octet n :: rest ∧
      decodeFrom index (some ⟨p.owed - 1, 0x80, 0xBF, p.seen + 1, p.code * 64 + n % 64⟩) rest =
        .ok cs := by
  obtain ⟨n, rest, hlow, hhigh, hn, rfl⟩ := exists_of_decodeFrom_pending h
  rw [decodeFrom_more index rest hlow hhigh hn howed] at h
  exact ⟨n, rest, hlow, hhigh, rfl, h⟩

theorem exists_of_decodeFrom_last (h : decodeFrom index (some p) octets = .ok cs)
    (howed : p.owed ≤ 1) :
    ∃ n rest cs', p.low ≤ n ∧ n ≤ p.high ∧ octets = octet n :: rest ∧
      decodeFrom (index + p.seen + 1) none rest = .ok cs' ∧
      cs = Char.ofNat (p.code * 64 + n % 64) :: cs' := by
  obtain ⟨n, rest, hlow, hhigh, hn, rfl⟩ := exists_of_decodeFrom_pending h
  rw [decodeFrom_last index rest hlow hhigh hn howed] at h
  cases hrest : decodeFrom (index + p.seen + 1) none rest with
  | error fault => rw [hrest] at h; cases h
  | ok cs' =>
    rw [hrest] at h
    cases h
    exact ⟨n, rest, cs', hlow, hhigh, rfl, hrest, rfl⟩

/-- The octets are those of the first character in front of others that the remaining characters
are read from. -/
def BeginsWithChar (octets : List UInt8) (cs : List Char) : Prop :=
  ∃ c rest cs' index, octets = encodeChar c ++ rest ∧ decodeFrom index none rest = .ok cs' ∧
    cs = c :: cs'

theorem beginsWithChar_two (hlow : 2 ≤ k) (hhigh : k < 32)
    (h : decodeFrom index (some ⟨1, 0x80, 0xBF, 1, k⟩) octets = .ok cs) :
    BeginsWithChar (octet (0xC0 + k) :: octets) cs := by
  obtain ⟨n₁, rest, cs', h₁, h₁', rfl, hrest, rfl⟩ := exists_of_decodeFrom_last h (by simp)
  dsimp only at h₁ h₁'
  refine ⟨_, rest, cs', _, ?_, hrest, rfl⟩
  generalize hm : k * 64 + n₁ % 64 = m
  have hcode := toNat_ofNat (show m < 0xD800 ∨ 0xDFFF < m ∧ m < 0x110000 by omega)
  have hlead : 0xC0 + m / 64 = 0xC0 + k := by omega
  have hfirst : 0x80 + m % 64 = n₁ := by omega
  simp only [encodeChar, hcode]
  rw [if_neg (by omega), if_pos (by omega), hlead, hfirst]
  rfl

theorem beginsWithChar_three (hk : k < 16)
    (h : decodeFrom index
      (some ⟨2, if k = 0 then 0xA0 else 0x80, if k = 13 then 0x9F else 0xBF, 1, k⟩) octets = .ok cs) :
    BeginsWithChar (octet (0xE0 + k) :: octets) cs := by
  obtain ⟨n₁, octets₁, h₁, h₁', rfl, hlast⟩ := exists_of_decodeFrom_more h (by simp)
  obtain ⟨n₂, rest, cs', h₂, h₂', rfl, hrest, rfl⟩ := exists_of_decodeFrom_last hlast (by simp)
  dsimp only at h₁ h₁' h₂ h₂'
  refine ⟨_, rest, cs', _, ?_, hrest, rfl⟩
  generalize hm : (k * 64 + n₁ % 64) * 64 + n₂ % 64 = m
  -- the range of the first follower leaves out overlong forms (`k = 0`) and surrogates (`k = 13`)
  have hrange : (0x800 ≤ m ∧ m < 0xD800) ∨ (0xDFFF < m ∧ m < 0x10000) := by
    split_ifs at h₁ h₁' <;> omega
  have hcode := toNat_ofNat (show m < 0xD800 ∨ 0xDFFF < m ∧ m < 0x110000 by omega)
  have hlead : 0xE0 + m / 4096 = 0xE0 + k := by omega
  have hfirst : 0x80 + m / 64 % 64 = n₁ := by split_ifs at h₁ h₁' <;> omega
  have hsecond : 0x80 + m % 64 = n₂ := by omega
  simp only [encodeChar, hcode]
  rw [if_neg (by omega), if_neg (by omega), if_pos (by omega), hlead, hfirst, hsecond]
  rfl

theorem beginsWithChar_four (hk : k < 5)
    (h : decodeFrom index
      (some ⟨3, if k = 0 then 0x90 else 0x80, if k = 4 then 0x8F else 0xBF, 1, k⟩) octets = .ok cs) :
    BeginsWithChar (octet (0xF0 + k) :: octets) cs := by
  obtain ⟨n₁, octets₁, h₁, h₁', rfl, hmore⟩ := exists_of_decodeFrom_more h (by simp)
  obtain ⟨n₂, octets₂, h₂, h₂', rfl, hlast⟩ := exists_of_decodeFrom_more hmore (by simp)
  obtain ⟨n₃, rest, cs', h₃, h₃', rfl, hrest, rfl⟩ := exists_of_decodeFrom_last hlast (by simp)
  dsimp only at h₁ h₁' h₂ h₂' h₃ h₃'
  refine ⟨_, rest, cs', _, ?_, hrest, rfl⟩
  generalize hm : ((k * 64 + n₁ % 64) * 64 + n₂ % 64) * 64 + n₃ % 64 = m
  have hrange : 0x10000 ≤ m ∧ m < 0x110000 := by
    split_ifs at h₁ h₁' <;> omega
  have hcode := toNat_ofNat (show m < 0xD800 ∨ 0xDFFF < m ∧ m < 0x110000 by omega)
  have hlead : 0xF0 + m / 262144 = 0xF0 + k := by omega
  have hfirst : 0x80 + m / 4096 % 64 = n₁ := by split_ifs at h₁ h₁' <;> omega
  have hsecond : 0x80 + m / 64 % 64 = n₂ := by omega
  have hthird : 0x80 + m % 64 = n₃ := by omega
  simp only [encodeChar, hcode]
  rw [if_neg (by omega), if_neg (by omega), if_neg (by omega), hlead, hfirst, hsecond, hthird]
  rfl

theorem beginsWithChar_of_decodeFrom {b : UInt8}
    (h : decodeFrom index none (b :: octets) = .ok cs) : BeginsWithChar (b :: octets) cs := by
  rw [eq_octet_toNat b]
  have hb := b.toNat_lt
  by_cases hascii : b.toNat < 0x80
  · rw [decodeFrom, if_pos hascii] at h
    cases hrest : decodeFrom (index + 1) none octets with
    | error fault => rw [hrest] at h; cases h
    | ok cs' =>
      rw [hrest] at h
      cases h
      refine ⟨Char.ofNat b.toNat, octets, cs', index + 1, ?_, hrest, rfl⟩
      simp only [encodeChar, toNat_ofNat (show b.toNat < 0xD800 ∨ _ by omega), if_pos hascii,
        List.singleton_append]
  · rw [decodeFrom, if_neg hascii] at h
    cases hlead : lead? b.toNat with
    | none => simp only [hlead] at h; cases h
    | some p =>
      simp only [hlead] at h
      rcases lead?_cases hlead with ⟨k, hlow, hhigh, hk⟩ | ⟨k, hlt, hk⟩ | ⟨k, hlt, hk⟩
      · rw [hk, lead?_two hlow hhigh] at hlead
        cases hlead
        rw [hk]
        exact beginsWithChar_two hlow hhigh h
      · rw [hk, lead?_three hlt] at hlead
        cases hlead
        rw [hk]
        exact beginsWithChar_three hlt h
      · rw [hk, lead?_four hlt] at hlead
        cases hlead
        rw [hk]
        exact beginsWithChar_four hlt h

theorem eq_flatMap_of_decodeFrom (h : decodeFrom index none octets = .ok cs) :
    octets = cs.flatMap encodeChar := by
  induction hlength : octets.length using Nat.strong_induction_on generalizing index octets cs with
  | _ length ih =>
    cases octets with
    | nil =>
      cases h
      rfl
    | cons b octets =>
      obtain ⟨c, rest, cs', index', hfirst, hrest, rfl⟩ := beginsWithChar_of_decodeFrom h
      have hshorter : rest.length < length := by
        have hc := encodeChar_length_pos c
        rw [← hlength, hfirst, List.length_append]
        omega
      rw [hfirst, List.flatMap_cons, ← ih rest.length hshorter hrest rfl]

end Inversion

theorem eq_encode_of_decode {octets : List UInt8} {s : String} (h : decode octets = .ok s) :
    octets = encode s := by
  rw [decode] at h
  cases hchars : decodeFrom 0 none octets with
  | error fault => rw [hchars] at h; cases h
  | ok cs =>
    rw [hchars] at h
    cases h
    rw [encode, String.toList_ofList, eq_flatMap_of_decodeFrom hchars]

end Utf8

end StreamScalar
