import Mathlib.Data.String.Basic
import Mathlib.Tactic.SplitIfs
import StreamScalar.Proofs.Text.Utf8

/-!
# UTF-8 keeps the order of texts

Texts are compared character by character, their octets octet by octet, and both comparisons agree
(`encode_lt_encode_iff`). So texts that are sorted as such are sorted by their octets
(`pairwise_encode_mergeSort`).
-/

namespace StreamScalar

namespace Utf8

theorem octet_cons_lt_iff {m n : Nat} (hm : m < 256) (hn : n < 256) {xs ys : List UInt8} :
    octet m :: xs < octet n :: ys ↔ m < n ∨ m = n ∧ xs < ys := by
  rw [List.cons_lt_cons_iff, UInt8.lt_iff_toNat_lt, ← UInt8.toNat_inj, octet_toNat hm, octet_toNat hn]

theorem encodeChar_append_lt {c d : Char} (h : c < d) (xs ys : List UInt8) :
    encodeChar c ++ xs < encodeChar d ++ ys := by
  have hlt : c.toNat < d.toNat := h
  have hd := toNat_range d
  unfold encodeChar
  generalize c.toNat = m at hlt ⊢
  generalize d.toNat = n at hlt hd ⊢
  simp only
  -- lead octets grow with the number of octets; behind equal ones the groups of bits are compared
  split_ifs <;> simp (disch := omega) only [List.cons_append, octet_cons_lt_iff] <;> omega

theorem flatMap_encodeChar_lt {cs ds : List Char} (h : cs < ds) :
    cs.flatMap encodeChar < ds.flatMap encodeChar := by
  induction h with
  | @nil d ds =>
    obtain ⟨b, bs, hd⟩ := List.exists_cons_of_length_pos (encodeChar_length_pos d)
    rw [List.flatMap_cons, hd]
    exact .nil
  | @rel c cs d ds hcd => exact encodeChar_append_lt hcd _ _
  | @cons c cs ds _ ih => exact List.append_left_lt ih

theorem encode_lt_encode_iff {a b : String} : encode a < encode b ↔ a < b := by
  constructor
  · intro h
    rcases lt_trichotomy a b with hab | rfl | hba
    · exact hab
    · exact absurd h (List.lt_irrefl _)
    · have hba' := flatMap_encodeChar_lt (String.lt_iff_toList_lt.mp hba)
      exact absurd hba' (List.lt_asymm h)
  · intro h
    exact flatMap_encodeChar_lt (String.lt_iff_toList_lt.mp h)

theorem pairwise_encode_mergeSort {texts : List String} (h : texts.Nodup) :
    (texts.mergeSort fun a b => decide (a ≤ b)).Pairwise fun a b => encode a < encode b := by
  have hsorted := @List.pairwise_mergeSort String (fun a b => decide (a ≤ b))
    (fun a b c hab hbc => decide_eq_true (le_trans (of_decide_eq_true hab) (of_decide_eq_true hbc)))
    (fun a b => by simpa using le_total a b) texts
  have hnodup : (texts.mergeSort fun a b => decide (a ≤ b)).Nodup :=
    (List.mergeSort_perm _ _).nodup_iff.mpr h
  refine (hsorted.and hnodup).imp ?_
  rintro a b ⟨hle, hne⟩
  exact encode_lt_encode_iff.mpr (lt_of_le_of_ne (of_decide_eq_true hle) hne)

end Utf8

end StreamScalar
