import StreamScalar.Codec.Types
import StreamScalar.Host.RunningSum
import StreamScalar.Proofs.Text.Utf8
import StreamScalar.SnapshotService

/-!
# Reading state undoes writing it

A codec is `Faithful` if it reads each of its encodings back, whatever bytes follow, and leaves
those. The lengths in front of lists and texts are numbers of 64 bits, so this is asked of encodings
of fewer than `2 ^ 64` bytes: no more have an address. Every building block keeps the property, and
so it holds of all that is made of them (`StateLayout.faithful`).

* `StateLayout` : the layouts of state, those of the library's types and what they are put together
  to.
* `Snapshot.decode_encode_append` : a snapshot of encoded state holds that state under its version,
  and under no other version anything.
-/

namespace StreamScalar

namespace Codec

variable {α β : Type}

/-- Every encoding that has addresses is read back in front of any bytes, and takes some. -/
structure Faithful (c : Codec α) : Prop where
  encode_ne_nil : ∀ a, c.encode a ≠ []
  decode_encode : ∀ a rest, (c.encode a).length < 2 ^ 64 →
    c.decode (c.encode a ++ rest) = .ok (a, rest)

theorem Faithful.decodeFirst_encode_append {c : Codec α} (hc : c.Faithful) {a : α}
    (h : (c.encode a).length < 2 ^ 64) (rest : List UInt8) :
    c.decodeFirst (c.encode a ++ rest) = .ok a := by
  rw [decodeFirst, hc.decode_encode a rest h]
  rfl

theorem Faithful.decodeFirst_encode {c : Codec α} (hc : c.Faithful) {a : α}
    (h : (c.encode a).length < 2 ^ 64) : c.decodeFirst (c.encode a) = .ok a := by
  have hread := hc.decodeFirst_encode_append h []
  rwa [List.append_nil] at hread

/-! ## Numbers -/

theorem littleEndian_length (width n : Nat) : (littleEndian width n).length = width := by
  induction width generalizing n with
  | zero => rfl
  | succ width ih => rw [littleEndian, List.length_cons, ih]

theorem readLittleEndian_littleEndian {width n : Nat} (h : n < 256 ^ width) (rest : List UInt8) :
    readLittleEndian width (littleEndian width n ++ rest) = .ok (n, rest) := by
  induction width generalizing n with
  | zero =>
    have hn : n = 0 := by simpa using h
    rw [hn]
    rfl
  | succ width ih =>
    have hhigh : n / 256 < 256 ^ width := by
      rw [Nat.div_lt_iff_lt_mul (by decide)]
      simpa [Nat.pow_succ] using h
    have hlow : (UInt8.ofNat n).toNat + 256 * (n / 256) = n := by
      rw [UInt8.toNat_ofNat']
      omega
    rw [littleEndian, List.cons_append, readLittleEndian, ih hhigh]
    exact congrArg (fun m => Except.ok (m, rest)) hlow

theorem faithful_word {width : Nat} {read : Nat → β} {write : β → Nat} (hwidth : 0 < width)
    (hread : ∀ b, read (write b) = b) (hwrite : ∀ b, write b < 256 ^ width) :
    ((word width).map read write).Faithful where
  encode_ne_nil b h := by
    have hlength := congrArg List.length h
    rw [map, word, littleEndian_length, List.length_nil] at hlength
    omega
  decode_encode b rest _ := by
    simp only [map, word, readLittleEndian_littleEndian (hwrite b)]
    exact congrArg (fun b => Except.ok (b, rest)) (hread b)

theorem faithful_u8 : u8.Faithful :=
  faithful_word (by decide) (fun _ => UInt8.ofNat_toNat) UInt8.toNat_lt

theorem faithful_u32 : u32.Faithful :=
  faithful_word (by decide) (fun _ => UInt32.ofNat_toNat) UInt32.toNat_lt

theorem faithful_u64 : u64.Faithful :=
  faithful_word (by decide) (fun _ => UInt64.ofNat_toNat) UInt64.toNat_lt

/-! ## Building blocks -/

theorem Faithful.map {c : Codec α} (hc : c.Faithful) {read : α → β} {write : β → α}
    (hread : ∀ b, read (write b) = b) : (c.map read write).Faithful where
  encode_ne_nil b := hc.encode_ne_nil (write b)
  decode_encode b rest h := by
    simp only [Codec.map, hc.decode_encode (write b) rest h]
    exact congrArg (fun b => Except.ok (b, rest)) (hread b)

theorem Faithful.pair {c : Codec α} {d : Codec β} (hc : c.Faithful) (hd : d.Faithful) :
    (c.pair d).Faithful where
  encode_ne_nil ab h := hc.encode_ne_nil ab.1 (List.append_eq_nil_iff.mp h).1
  decode_encode ab rest h := by
    simp only [Codec.pair, List.length_append] at h
    simp only [Codec.pair, List.append_assoc, hc.decode_encode ab.1 _ (by omega)]
    simp only [bind, Except.bind, hd.decode_encode ab.2 rest (by omega)]
    rfl

theorem faithful_bool : bool.Faithful where
  encode_ne_nil b := by simp [bool]
  decode_encode b rest _ := by cases b <;> rfl

theorem Faithful.option {c : Codec α} (hc : c.Faithful) : c.option.Faithful where
  encode_ne_nil a := by cases a <;> simp [Codec.option]
  decode_encode a rest h := by
    cases a with
    | none => rfl
    | some a =>
      simp only [Codec.option, List.length_cons] at h
      simp only [Codec.option, List.cons_append, hc.decode_encode a rest (by omega)]
      rfl

theorem decode_length {n : Nat} (h : n < 2 ^ 64) (rest : List UInt8) :
    length.decode (length.encode n ++ rest) = .ok (n, rest) := by
  have hwidth : n < 256 ^ 8 := by omega
  exact readLittleEndian_littleEndian hwidth rest

theorem decodeMany_flatMap {c : Codec α} (hc : c.Faithful) (as : List α) (rest : List UInt8)
    (h : (as.flatMap c.encode).length < 2 ^ 64) :
    decodeMany c as.length (as.flatMap c.encode ++ rest) = .ok (as, rest) := by
  induction as with
  | nil => rfl
  | cons a as ih =>
    rw [List.flatMap_cons, List.length_append] at h
    rw [List.flatMap_cons, List.append_assoc, List.length_cons, decodeMany,
      hc.decode_encode a _ (by omega)]
    simp only [bind, Except.bind, ih (by omega)]
    rfl

/-- No more elements than bytes, since each of them takes some. -/
theorem Faithful.length_le {c : Codec α} (hc : c.Faithful) (as : List α) :
    as.length ≤ (as.flatMap c.encode).length := by
  induction as with
  | nil => exact Nat.le_refl 0
  | cons a as ih =>
    have ha := List.length_pos_iff.mpr (hc.encode_ne_nil a)
    rw [List.flatMap_cons, List.length_append, List.length_cons]
    omega

theorem Faithful.list {c : Codec α} (hc : c.Faithful) : c.list.Faithful where
  encode_ne_nil as h := by
    have hlength := congrArg List.length (List.append_eq_nil_iff.mp h).1
    exact absurd (hlength.symm.trans (littleEndian_length 8 as.length)) (by decide)
  decode_encode as rest h := by
    have hcount := hc.length_le as
    simp only [Codec.list, List.length_append] at h
    simp only [Codec.list, List.append_assoc, decode_length (show as.length < 2 ^ 64 by omega)]
    exact decodeMany_flatMap hc as rest (by omega)

theorem faithful_text : text.Faithful where
  encode_ne_nil s h := by
    have hlength := congrArg List.length (List.append_eq_nil_iff.mp h).1
    exact absurd (hlength.symm.trans (littleEndian_length 8 (Utf8.encode s).length)) (by decide)
  decode_encode s rest h := by
    simp only [text, List.length_append] at h
    simp only [text, List.append_assoc,
      decode_length (show (Utf8.encode s).length < 2 ^ 64 by omega)]
    simp only [bind, Except.bind, List.length_append, List.take_left, List.drop_left,
      Utf8.decode_encode, if_neg (show ¬ (Utf8.encode s).length + rest.length <
        (Utf8.encode s).length by omega)]

/-! ## The library's types -/

theorem faithful_i32 : i32.Faithful := faithful_u32.map Int32.toInt32_toUInt32
theorem faithful_i64 : i64.Faithful := faithful_u64.map Int64.toInt64_toUInt64
theorem faithful_f32 : f32.Faithful := faithful_u32.map fun _ => rfl
theorem faithful_f64 : f64.Faithful := faithful_u64.map fun _ => rfl
theorem faithful_bytes : bytes.Faithful := faithful_u8.list

theorem faithful_attributeType : attributeType.Faithful where
  encode_ne_nil _ := faithful_u32.encode_ne_nil _
  decode_encode t rest h := by
    simp only [attributeType, faithful_u32.decode_encode _ rest h]
    cases t <;> rfl

theorem decode_index (index : UInt32) (rest : List UInt8) :
    u32.decode (u32.encode index ++ rest) = .ok (index, rest) :=
  faithful_u32.decode_encode index rest
    (by rw [u32, map, word, littleEndian_length]; decide)

theorem faithful_value : value.Faithful where
  encode_ne_nil v h := by
    cases v <;> exact faithful_u32.encode_ne_nil _ (List.append_eq_nil_iff.mp h).1
  decode_encode v rest h := by
    cases v
    all_goals
      simp only [value, List.length_append] at h
      simp only [value, List.append_assoc, decode_index, bind, Except.bind]
    case int n => rw [faithful_i32.decode_encode n rest (by omega)]; rfl
    case long n => rw [faithful_i64.decode_encode n rest (by omega)]; rfl
    case float x => rw [faithful_f32.decode_encode x rest (by omega)]; rfl
    case double x => rw [faithful_f64.decode_encode x rest (by omega)]; rfl
    case bool b => rw [faithful_bool.decode_encode b rest (by omega)]; rfl
    case string s => rw [faithful_text.decode_encode s rest (by omega)]; rfl

theorem faithful_event : event.Faithful :=
  (faithful_i64.pair faithful_value.option.list).map fun _ => rfl

theorem faithful_snapshot : snapshot.Faithful :=
  (faithful_u32.pair faithful_bytes).map fun _ => rfl

theorem faithful_extensionConfig : extensionConfig.Faithful :=
  (faithful_text.pair faithful_text.list).map fun _ => rfl

/-! ## All layouts -/

/-- The layouts of state: those of the library's types, and what options, lists, pairs and records
make of them. A record is laid out as the pair of its fields. -/
inductive StateLayout : {α : Type} → Codec α → Prop
  | bool : StateLayout bool
  | u8 : StateLayout u8
  | u32 : StateLayout u32
  | u64 : StateLayout u64
  | i32 : StateLayout i32
  | i64 : StateLayout i64
  | f32 : StateLayout f32
  | f64 : StateLayout f64
  | text : StateLayout text
  | bytes : StateLayout bytes
  | attributeType : StateLayout attributeType
  | value : StateLayout value
  | event : StateLayout event
  | snapshot : StateLayout snapshot
  | extensionConfig : StateLayout extensionConfig
  | option {α : Type} {c : Codec α} : StateLayout c → StateLayout c.option
  | list {α : Type} {c : Codec α} : StateLayout c → StateLayout c.list
  | pair {α β : Type} {c : Codec α} {d : Codec β} :
      StateLayout c → StateLayout d → StateLayout (c.pair d)
  | record {α β : Type} {c : Codec α} {read : α → β} {write : β → α} :
      StateLayout c → (∀ b, read (write b) = b) → StateLayout (c.map read write)

theorem StateLayout.faithful {c : Codec α} (h : StateLayout c) : c.Faithful := by
  induction h with
  | bool => exact faithful_bool
  | u8 => exact faithful_u8
  | u32 => exact faithful_u32
  | u64 => exact faithful_u64
  | i32 => exact faithful_i32
  | i64 => exact faithful_i64
  | f32 => exact faithful_f32
  | f64 => exact faithful_f64
  | text => exact faithful_text
  | bytes => exact faithful_bytes
  | attributeType => exact faithful_attributeType
  | value => exact faithful_value
  | event => exact faithful_event
  | snapshot => exact faithful_snapshot
  | extensionConfig => exact faithful_extensionConfig
  | option _ ih => exact ih.option
  | list _ ih => exact ih.list
  | pair _ _ ihc ihd => exact ihc.pair ihd
  | record _ hread ih => exact ih.map hread

theorem StateLayout.sum : StateLayout Codec.sum :=
  (StateLayout.f64.pair .u64).record fun _ => rfl

theorem StateLayout.checkpointRows : StateLayout checkpointRows :=
  (StateLayout.text.pair .snapshot).list

end Codec

/-! ## Snapshots of encoded state -/

namespace Snapshot

open Codec (StateLayout)

variable {α : Type}

/-- **Reading state undoes writing it**: under the version it was written with, whatever bytes
follow it. Under any other version there is nothing to be read, whatever the bytes are. -/
theorem decode_encode_append {c : Codec α} (layout : StateLayout c) (version : UInt32) (state : α) :
    (encode version c state).version = version ∧
      ((encode version c state).data.length < 2 ^ 64 → ∀ rest,
        decode ⟨version, (encode version c state).data ++ rest⟩ version c = .ok state) ∧
      ∀ expected, expected ≠ version → ∀ data,
        decode ⟨version, data⟩ expected c = .error (.versionMismatch expected version) := by
  refine ⟨rfl, fun h rest => ?_, fun expected hne data => ?_⟩
  · have hread := layout.faithful.decode_encode state rest h
    rw [decode, if_pos rfl, encode, Codec.decodeFirst, hread]
    rfl
  · rw [decode, if_neg (Ne.symm hne)]

/-- An event whose attributes are negative, absent and a text of two-octet and four-octet
characters, read in front of a byte that is not its own. -/
theorem decode_encode_append_event :
    let e : Event := ⟨-5, [some (.long (-2)), none, some (.string "é😀")]⟩
    (encode 3 .event e).data.length < 2 ^ 64 ∧
      decode ⟨3, (encode 3 .event e).data ++ [7]⟩ 3 .event = .ok e ∧
      (2 : UInt32) ≠ 3 ∧
      decode ⟨3, (encode 3 .event e).data ++ [7]⟩ 2 .event = .error (.versionMismatch 2 3) := by
  intro e
  have hlength : (encode 3 .event e).data.length < 2 ^ 64 := by decide
  obtain ⟨-, hread, hother⟩ := decode_encode_append .event 3 e
  exact ⟨hlength, hread hlength [7], by decide, hother 2 (by decide) _⟩

example : (encode 1 .value (.long (-2))).data = [1, 0, 0, 0, 254, 255, 255, 255, 255, 255, 255, 255] := by
  decide

end Snapshot

end StreamScalar
