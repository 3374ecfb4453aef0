import Mathlib.Data.List.TakeWhile
import StreamScalar.Text.WhiteSpace

/-!
# What trimming leaves

Trimming takes white space away and nothing else: every other character stays (`mem_trim_iff`), and
nothing is left exactly of the texts that are all white space (`trim_eq_empty_iff`).
-/

namespace StreamScalar

namespace Text

theorem mem_dropWhile_iff {p : Char → Bool} {c : Char} (hc : p c = false) (cs : List Char) :
    c ∈ cs.dropWhile p ↔ c ∈ cs := by
  constructor
  · intro hmem
    exact (List.dropWhile_sublist p).mem hmem
  · intro hmem
    rw [← List.takeWhile_append_dropWhile (p := p) (l := cs)] at hmem
    rcases List.mem_append.mp hmem with htaken | hleft
    · have htrue := List.all_eq_true.mp List.all_takeWhile c htaken
      rw [hc] at htrue
      cases htrue
    · exact hleft

theorem mem_trim_iff {c : Char} (hc : isWhiteSpace c = false) (s : String) :
    c ∈ (trim s).toList ↔ c ∈ s.toList := by
  rw [trim, String.toList_ofList, List.mem_reverse, mem_dropWhile_iff hc, List.mem_reverse,
    mem_dropWhile_iff hc]

theorem trim_eq_empty_iff (s : String) :
    trim s = "" ↔ ∀ c ∈ s.toList, isWhiteSpace c = true := by
  constructor
  · intro hempty c hmem
    cases hc : isWhiteSpace c with
    | true => rfl
    | false =>
      have hleft := (mem_trim_iff hc s).mpr hmem
      simp [hempty] at hleft
  · intro hall
    have hstart : s.toList.dropWhile isWhiteSpace = [] := List.dropWhile_eq_nil_iff.mpr hall
    rw [trim, hstart]
    rfl

end Text

end StreamScalar
