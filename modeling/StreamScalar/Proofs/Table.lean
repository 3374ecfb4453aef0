import Mathlib.Data.List.Nodup
import StreamScalar.Table

/-!
# Tables and their rows

A table is known by its look-up: a row is in it if and only if the look-up of its key gives its
value (`mem_rows_iff`), and of the rows that a table is made of the last one of a key counts
(`get?_ofList`, `get?_ofList_eq_some_iff_lastRow`).
-/

namespace StreamScalar

namespace Table

variable {κ α : Type} [DecidableEq κ]

theorem lookup_eq_some_iff {rows : List (κ × α)} (h : (rows.map (·.1)).Nodup) {key : κ} {value : α} :
    lookup key rows = some value ↔ (key, value) ∈ rows := by
  induction rows with
  | nil => simp [lookup]
  | cons row rest ih =>
    obtain ⟨k, a⟩ := row
    rw [List.map_cons, List.nodup_cons] at h
    by_cases hkey : k = key
    · subst hkey
      have hfresh : (k, value) ∉ rest := fun hmem =>
        h.1 (List.mem_map.mpr ⟨(k, value), hmem, rfl⟩)
      simp [lookup, hfresh, eq_comm]
    · have hne : (key, value) ≠ (k, a) := fun heq => hkey (congrArg Prod.fst heq).symm
      simp [lookup, hkey, hne, ih h.2]

theorem mem_rows_iff (t : Table κ α) {key : κ} {value : α} :
    (key, value) ∈ t.rows ↔ t.get? key = some value :=
  (lookup_eq_some_iff t.nodup).symm

theorem lookup_append (key : κ) (rows more : List (κ × α)) :
    lookup key (rows ++ more) = (lookup key rows).or (lookup key more) := by
  induction rows with
  | nil => rfl
  | cons row rest ih =>
    obtain ⟨k, a⟩ := row
    by_cases hkey : k = key
    · simp [lookup, hkey]
    · simp [lookup, hkey, ih]

theorem get?_foldl_insert (rows : List (κ × α)) (t : Table κ α) (key : κ) :
    (rows.foldl (fun t row => t.insert row.1 row.2) t).get? key =
      (lookup key rows.reverse).or (t.get? key) := by
  induction rows generalizing t with
  | nil => rfl
  | cons row rest ih =>
    obtain ⟨k, a⟩ := row
    rw [List.foldl_cons, ih, List.reverse_cons, lookup_append, get?_insert]
    by_cases hkey : k = key <;> cases lookup key rest.reverse <;> simp [lookup, hkey]

/-- The last row of a key counts. -/
theorem get?_ofList (rows : List (κ × α)) (key : κ) :
    (ofList rows).get? key = lookup key rows.reverse := by
  rw [ofList, get?_foldl_insert, get?_empty, Option.or_none]

theorem get?_ofList_eq_some_iff {rows : List (κ × α)} (h : (rows.map (·.1)).Nodup) {key : κ}
    {value : α} : (ofList rows).get? key = some value ↔ (key, value) ∈ rows := by
  have hreverse : (rows.reverse.map (·.1)).Nodup := by
    rw [List.map_reverse]
    exact List.nodup_reverse.mpr h
  rw [get?_ofList, lookup_eq_some_iff hreverse, List.mem_reverse]

/-! ## Rows that repeat a key -/

/-- The row is there, and no later one has its key. -/
def LastRow (rows : List (κ × α)) (key : κ) (value : α) : Prop :=
  ∃ before after, rows = before ++ (key, value) :: after ∧ key ∉ after.map (·.1)

theorem lookup_eq_some_iff_first {rows : List (κ × α)} {key : κ} {value : α} :
    lookup key rows = some value ↔
      ∃ before after, rows = before ++ (key, value) :: after ∧ key ∉ before.map (·.1) := by
  induction rows with
  | nil => simp [lookup]
  | cons row rest ih =>
    obtain ⟨k, a⟩ := row
    by_cases hkey : k = key
    · subst hkey
      rw [lookup, if_pos rfl, Option.some_inj]
      constructor
      · rintro rfl
        exact ⟨[], rest, rfl, by simp⟩
      · rintro ⟨before, after, hrows, hfirst⟩
        cases before with
        | nil => exact congrArg Prod.snd (List.cons.inj hrows).1
        | cons row' before =>
          rw [List.cons_append, List.cons.injEq] at hrows
          exact absurd (by rw [← hrows.1]; simp) hfirst
    · rw [lookup, if_neg hkey, ih]
      constructor
      · rintro ⟨before, after, rfl, hfirst⟩
        refine ⟨(k, a) :: before, after, rfl, ?_⟩
        rw [List.map_cons, List.mem_cons]
        rintro (hk | hmem)
        · exact hkey hk.symm
        · exact hfirst hmem
      · rintro ⟨before, after, hrows, hfirst⟩
        cases before with
        | nil => exact absurd (congrArg Prod.fst (List.cons.inj hrows).1) hkey
        | cons row' before =>
          rw [List.cons_append, List.cons.injEq] at hrows
          exact ⟨before, after, hrows.2, fun hmem => hfirst (List.mem_cons_of_mem _ hmem)⟩

theorem get?_ofList_eq_some_iff_lastRow {rows : List (κ × α)} {key : κ} {value : α} :
    (ofList rows).get? key = some value ↔ LastRow rows key value := by
  rw [get?_ofList, lookup_eq_some_iff_first]
  constructor
  · rintro ⟨before, after, hrows, hfirst⟩
    refine ⟨after.reverse, before.reverse, ?_, by simpa using hfirst⟩
    rw [← List.reverse_reverse rows, hrows]
    simp
  · rintro ⟨before, after, rfl, hlast⟩
    exact ⟨after.reverse, before.reverse, by simp, by simpa using hlast⟩

theorem isSome_lookup_iff {rows : List (κ × α)} {key : κ} :
    (lookup key rows).isSome = true ↔ key ∈ rows.map (·.1) := by
  induction rows with
  | nil => simp [lookup]
  | cons row rest ih =>
    obtain ⟨k, a⟩ := row
    by_cases hkey : k = key
    · simp [lookup, hkey]
    · simp [lookup, hkey, Ne.symm hkey, ← ih]

theorem mem_keys_ofList_iff {rows : List (κ × α)} {key : κ} :
    key ∈ (ofList rows).keys ↔ key ∈ rows.map (·.1) := by
  rw [mem_keys_iff, contains, get?_ofList, isSome_lookup_iff, List.map_reverse, List.mem_reverse]

end Table

end StreamScalar
