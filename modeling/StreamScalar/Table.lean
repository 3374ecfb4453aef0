/-!
# Tables

A table assigns at most one value to each key. Its rows stand in the order in which their keys came
in; a new value for a key takes the place of the old one.

* `get?_insert`, `get?_erase` : the two updates, seen through the look-up.
-/

namespace StreamScalar

/-- Rows of a key and a value, no key twice. -/
structure Table (κ α : Type) where
  rows : List (κ × α)
  nodup : (rows.map (·.1)).Nodup

namespace Table

variable {κ α : Type} [DecidableEq κ]

def empty : Table κ α := ⟨[], .nil⟩

instance : EmptyCollection (Table κ α) := ⟨empty⟩
instance : Inhabited (Table κ α) := ⟨empty⟩

def keys (t : Table κ α) : List κ := t.rows.map (·.1)

def size (t : Table κ α) : Nat := t.rows.length

def lookup (key : κ) : List (κ × α) → Option α
  | [] => none
  | (k, a) :: rest => if k = key then some a else lookup key rest

/-- The rows with a value under a key, in its old place or else at the end. -/
def put (key : κ) (value : α) : List (κ × α) → List (κ × α)
  | [] => [(key, value)]
  | (k, a) :: rest => if k = key then (key, value) :: rest else (k, a) :: put key value rest

def get? (t : Table κ α) (key : κ) : Option α := lookup key t.rows

def contains (t : Table κ α) (key : κ) : Bool := (t.get? key).isSome

theorem mem_keys_put (key : κ) (value : α) (rows : List (κ × α)) (k : κ) :
    k ∈ (put key value rows).map (·.1) ↔ k = key ∨ k ∈ rows.map (·.1) := by
  induction rows with
  | nil => simp [put]
  | cons row rest ih =>
    obtain ⟨k', a⟩ := row
    by_cases h : k' = key
    · subst h; simp [put]
    · simp only [put, if_neg h, List.map_cons, List.mem_cons, ih]
      constructor
      · rintro (rfl | rfl | h') <;> simp [*]
      · rintro (rfl | rfl | h') <;> simp [*]

theorem nodup_put (key : κ) (value : α) {rows : List (κ × α)} (h : (rows.map (·.1)).Nodup) :
    ((put key value rows).map (·.1)).Nodup := by
  induction rows with
  | nil => simp [put]
  | cons row rest ih =>
    obtain ⟨k', a⟩ := row
    rw [List.map_cons, List.nodup_cons] at h
    by_cases hk : k' = key
    · subst hk; simpa [put] using h
    · simp only [put, if_neg hk, List.map_cons, List.nodup_cons, mem_keys_put]
      exact ⟨fun h' => h'.elim hk h.1, ih h.2⟩

def insert (t : Table κ α) (key : κ) (value : α) : Table κ α :=
  ⟨put key value t.rows, nodup_put key value t.nodup⟩

def erase (t : Table κ α) (key : κ) : Table κ α where
  rows := t.rows.filter (·.1 ≠ key)
  nodup := by
    have sublist := (List.filter_sublist (p := fun row => decide (row.1 ≠ key)) (l := t.rows)).map
      (fun row => row.1)
    exact sublist.nodup t.nodup

/-- The table of rows read from the first to the last, a later row replacing an earlier one of the
same key. -/
def ofList (rows : List (κ × α)) : Table κ α :=
  rows.foldl (fun t row => t.insert row.1 row.2) empty

@[simp] theorem get?_empty (key : κ) : (empty : Table κ α).get? key = none := rfl

theorem lookup_put (key : κ) (value : α) (rows : List (κ × α)) (k : κ) :
    lookup k (put key value rows) = if key = k then some value else lookup k rows := by
  induction rows with
  | nil => simp [put, lookup]
  | cons row rest ih =>
    obtain ⟨k', a⟩ := row
    by_cases h : k' = key
    · subst h; by_cases h' : k' = k <;> simp [put, lookup, h']
    · by_cases h' : k' = k
      · subst h'; simp [put, lookup, h, Ne.symm h]
      · simp [put, lookup, h, h', ih]

@[simp] theorem get?_insert (t : Table κ α) (key : κ) (value : α) (k : κ) :
    (t.insert key value).get? k = if key = k then some value else t.get? k :=
  lookup_put key value t.rows k

theorem lookup_filter (key : κ) (rows : List (κ × α)) (k : κ) :
    lookup k (rows.filter (·.1 ≠ key)) = if key = k then none else lookup k rows := by
  induction rows with
  | nil => simp [lookup]
  | cons row rest ih =>
    obtain ⟨k', a⟩ := row
    by_cases h : k' = key
    · subst h
      by_cases h' : k' = k
      · simpa [h'] using ih
      · simpa [lookup, h'] using ih
    · by_cases h' : k' = k
      · subst h'; simp [lookup, h, Ne.symm h]
      · simpa [lookup, h, h'] using ih

@[simp] theorem get?_erase (t : Table κ α) (key : κ) (k : κ) :
    (t.erase key).get? k = if key = k then none else t.get? k :=
  lookup_filter key t.rows k

theorem mem_keys_iff (t : Table κ α) (key : κ) : key ∈ t.keys ↔ t.contains key = true := by
  obtain ⟨rows, _⟩ := t
  simp only [keys, contains, get?]
  induction rows with
  | nil => simp [lookup]
  | cons row rest ih =>
    obtain ⟨k', a⟩ := row
    rename_i nodup
    rw [List.map_cons, List.nodup_cons] at nodup
    by_cases h : k' = key
    · simp [lookup, h]
    · simpa [lookup, h, Ne.symm h] using ih nodup.2

end Table

end StreamScalar
