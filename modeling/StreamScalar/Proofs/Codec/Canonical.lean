import Mathlib.Tactic.IntervalCases
import Mathlib.Tactic.SplitIfs
import StreamScalar.Proofs.Codec.RoundTrip

/-!
# Nothing but encodings is read

A codec is `Canonical` if every value that it reads stood there encoded, byte for byte. Every building
block keeps the property, if a record can be put together again from its fields without loss, and so
it holds of all that is made of them. Together with reading what has been written it says that a codec
accepts exactly the encodings, each value having one.

* `ExactLayout.canonical` : the layouts that lose nothing, neither written nor read.
-/

namespace StreamScalar

section Except

variable {ε α β : Type}

theorem bind_eq_ok_iff {x : Except ε α} {f : α → Except ε β} {b : β} :
    x >>= f = .ok b ↔ ∃ a, x = .ok a ∧ f a = .ok b := by
  cases x with
  | error e =>
    constructor
    · intro h
      cases h
    · rintro ⟨a, ha, -⟩
      cases ha
  | ok a =>
    constructor
    · intro h
      exact ⟨a, rfl, h⟩
    · rintro ⟨a', ha, h⟩
      cases ha
      exact h

theorem exists_error_of_ne_ok {x : Except ε α} (h : ∀ a, x ≠ .ok a) : ∃ e, x = .error e := by
  cases x with
  | error e => exact ⟨e, rfl⟩
  | ok a => exact absurd rfl (h a)

theorem exists_error_bind {x : Except ε α} (h : ∃ e, x = .error e) (f : α → Except ε β) :
    ∃ e, x >>= f = .error e := by
  obtain ⟨e, rfl⟩ := h
  exact ⟨e, rfl⟩

end Except

namespace Codec

variable {α β : Type}

/-- Whatever is read is an encoding, and just that is taken from the bytes. -/
def Canonical (c : Codec α) : Prop :=
  ∀ bytes a rest, c.decode bytes = .ok (a, rest) → bytes = c.encode a ++ rest

/-! ## Numbers -/

theorem readLittleEndian_eq_ok {width n : Nat} {bytes rest : List UInt8}
    (h : readLittleEndian width bytes = .ok (n, rest)) :
    bytes = littleEndian width n ++ rest ∧ n < 256 ^ width := by
  induction width generalizing bytes n with
  | zero =>
    cases h
    exact ⟨rfl, by simp⟩
  | succ width ih =>
    cases bytes with
    | nil => cases h
    | cons b bytes =>
      rw [readLittleEndian, bind_eq_ok_iff] at h
      obtain ⟨⟨high, rest'⟩, hhigh, h⟩ := h
      cases h
      obtain ⟨hbytes, hlt⟩ := ih hhigh
      have hb := b.toNat_lt
      have hfirst : UInt8.ofNat (b.toNat + 256 * high) = b := by
        apply UInt8.toNat_inj.mp
        rw [UInt8.toNat_ofNat']
        omega
      have hrest : (b.toNat + 256 * high) / 256 = high := by omega
      constructor
      · rw [littleEndian, hfirst, hrest, hbytes, List.cons_append]
      · rw [Nat.pow_succ]
        omega

theorem canonical_word {width : Nat} {read : Nat → β} {write : β → Nat}
    (hwrite : ∀ n, n < 256 ^ width → write (read n) = n) :
    ((word width).map read write).Canonical := by
  intro bytes b rest h
  obtain ⟨⟨n, rest'⟩, hn, h⟩ := bind_eq_ok_iff.mp h
  cases h
  obtain ⟨hbytes, hlt⟩ := readLittleEndian_eq_ok hn
  show bytes = littleEndian width (write (read n)) ++ rest
  rw [hwrite n hlt, hbytes]

theorem canonical_u8 : u8.Canonical :=
  canonical_word fun n hn => by rw [UInt8.toNat_ofNat']; omega

theorem canonical_u32 : u32.Canonical :=
  canonical_word fun n hn => by rw [UInt32.toNat_ofNat']; omega

theorem canonical_u64 : u64.Canonical :=
  canonical_word fun n hn => by rw [UInt64.toNat_ofNat']; omega

theorem canonical_length {count : Nat} {bytes rest : List UInt8}
    (h : length.decode bytes = .ok (count, rest)) : bytes = length.encode count ++ rest :=
  (readLittleEndian_eq_ok h).1

/-! ## Building blocks -/

theorem Canonical.map {c : Codec α} (hc : c.Canonical) {read : α → β} {write : β → α}
    (hwrite : ∀ a, write (read a) = a) : (c.map read write).Canonical := by
  intro bytes b rest h
  obtain ⟨⟨a, rest'⟩, ha, h⟩ := bind_eq_ok_iff.mp h
  cases h
  show bytes = c.encode (write (read a)) ++ rest
  rw [hwrite, hc bytes a rest ha]

theorem Canonical.pair {c : Codec α} {d : Codec β} (hc : c.Canonical) (hd : d.Canonical) :
    (c.pair d).Canonical := by
  intro bytes ab rest h
  obtain ⟨⟨a, rest₁⟩, ha, h⟩ := bind_eq_ok_iff.mp h
  obtain ⟨⟨b, rest₂⟩, hb, h⟩ := bind_eq_ok_iff.mp h
  cases h
  show bytes = (c.encode a ++ d.encode b) ++ rest
  rw [hc bytes a rest₁ ha, hd rest₁ b rest hb, List.append_assoc]

theorem canonical_bool : bool.Canonical := by
  intro bytes b rest h
  cases bytes with
  | nil => cases h
  | cons byte bytes =>
    simp only [bool] at h
    split_ifs at h with hzero hone
    · cases h
      rw [hzero]
      rfl
    · cases h
      rw [hone]
      rfl

theorem Canonical.option {c : Codec α} (hc : c.Canonical) : c.option.Canonical := by
  intro bytes a rest h
  cases bytes with
  | nil => cases h
  | cons mark bytes =>
    simp only [Codec.option] at h
    split_ifs at h with hzero hone
    · cases h
      rw [hzero]
      rfl
    · obtain ⟨⟨a, rest'⟩, ha, h⟩ := bind_eq_ok_iff.mp h
      cases h
      rw [hone, hc bytes a _ ha]
      rfl

theorem decodeMany_eq_ok {c : Codec α} (hc : c.Canonical) {count : Nat} {bytes rest : List UInt8}
    {as : List α} (h : decodeMany c count bytes = .ok (as, rest)) :
    as.length = count ∧ bytes = as.flatMap c.encode ++ rest := by
  induction count generalizing bytes as with
  | zero =>
    cases h
    exact ⟨rfl, rfl⟩
  | succ count ih =>
    obtain ⟨⟨a, rest₁⟩, ha, h⟩ := bind_eq_ok_iff.mp h
    obtain ⟨⟨more, rest₂⟩, hmore, h⟩ := bind_eq_ok_iff.mp h
    cases h
    obtain ⟨hlength, hbytes⟩ := ih hmore
    constructor
    · rw [List.length_cons, hlength]
    · rw [hc bytes a rest₁ ha, hbytes, List.flatMap_cons, List.append_assoc]

theorem Canonical.list {c : Codec α} (hc : c.Canonical) : c.list.Canonical := by
  intro bytes as rest h
  obtain ⟨⟨count, rest₁⟩, hcount, h⟩ := bind_eq_ok_iff.mp h
  obtain ⟨hlength, hbytes⟩ := decodeMany_eq_ok hc h
  show bytes = (length.encode as.length ++ as.flatMap c.encode) ++ rest
  rw [canonical_length hcount, hlength, hbytes, List.append_assoc]

theorem canonical_text : text.Canonical := by
  intro bytes s rest h
  obtain ⟨⟨count, rest₁⟩, hcount, h⟩ := bind_eq_ok_iff.mp h
  dsimp only at h
  split_ifs at h with hend
  split at h
  · next s' hs =>
    cases h
    have hoctets := Utf8.eq_encode_of_decode hs
    have hlength : (Utf8.encode s).length = count := by
      rw [← hoctets, List.length_take]
      omega
    show bytes = (length.encode (Utf8.encode s).length ++ Utf8.encode s) ++ _
    rw [canonical_length hcount, hlength, ← hoctets, List.append_assoc, List.take_append_drop]
  · cases h

/-! ## The library's types -/

theorem canonical_i32 : i32.Canonical := canonical_u32.map UInt32.toUInt32_toInt32
theorem canonical_i64 : i64.Canonical := canonical_u64.map UInt64.toUInt64_toInt64
theorem canonical_f32 : f32.Canonical := canonical_u32.map fun _ => rfl
theorem canonical_f64 : f64.Canonical := canonical_u64.map fun _ => rfl
theorem canonical_bytes : bytes.Canonical := canonical_u8.list

theorem canonical_attributeType : attributeType.Canonical := by
  intro bytes t rest h
  obtain ⟨⟨index, rest₁⟩, hindex, h⟩ := bind_eq_ok_iff.mp h
  dsimp only at h
  split at h
  · next t' ht =>
    cases h
    have hnumber : UInt32.ofNat (AttributeType.all.idxOf t) = index := by
      apply UInt32.toNat_inj.mp
      obtain ⟨hlt, -⟩ := List.getElem?_eq_some_iff.mp ht
      generalize index.toNat = k at ht hlt
      change k < 7 at hlt
      interval_cases k <;> cases ht <;> rfl
    show bytes = u32.encode (UInt32.ofNat (AttributeType.all.idxOf t)) ++ rest
    rw [hnumber, canonical_u32 bytes index rest hindex]
  · cases h

theorem canonical_alternative {c : Codec α} (hc : c.Canonical) {make : α → Value} {index k : UInt32}
    (hencode : ∀ a, value.encode (make a) = u32.encode k ++ c.encode a)
    (hk : index.toNat = k.toNat) {bytes rest : List UInt8} {v : Value}
    (h : (do let (a, rest) ← c.decode bytes; return (make a, rest) : Except DecodeError _) =
      .ok (v, rest)) : u32.encode index ++ bytes = value.encode v ++ rest := by
  obtain ⟨⟨a, rest₁⟩, ha, h⟩ := bind_eq_ok_iff.mp h
  cases h
  rw [UInt32.toNat_inj.mp hk, hencode, hc bytes a rest ha, List.append_assoc]

theorem canonical_value : value.Canonical := by
  intro bytes v rest h
  obtain ⟨⟨index, rest₁⟩, hindex, h⟩ := bind_eq_ok_iff.mp h
  rw [canonical_u32 bytes index rest₁ hindex]
  dsimp only at h
  split at h
  case h_1 hk => exact canonical_alternative canonical_i32 (k := 0) (fun _ => rfl) hk h
  case h_2 hk => exact canonical_alternative canonical_i64 (k := 1) (fun _ => rfl) hk h
  case h_3 hk => exact canonical_alternative canonical_f32 (k := 2) (fun _ => rfl) hk h
  case h_4 hk => exact canonical_alternative canonical_f64 (k := 3) (fun _ => rfl) hk h
  case h_5 hk => exact canonical_alternative canonical_bool (k := 4) (fun _ => rfl) hk h
  case h_6 hk => exact canonical_alternative canonical_text (k := 5) (fun _ => rfl) hk h
  case h_7 => cases h

theorem canonical_event : event.Canonical :=
  (canonical_i64.pair canonical_value.option.list).map fun _ => rfl

theorem canonical_snapshot : snapshot.Canonical :=
  (canonical_u32.pair canonical_bytes).map fun _ => rfl

theorem canonical_extensionConfig : extensionConfig.Canonical :=
  (canonical_text.pair canonical_text.list).map fun _ => rfl

/-! ## All layouts that lose nothing -/

/-- The layouts of the library's types, and what options, lists, pairs and records make of them, if
each record is put together of its fields and nothing else. -/
inductive ExactLayout : {α : Type} → Codec α → Prop
  | bool : ExactLayout bool
  | u8 : ExactLayout u8
  | u32 : ExactLayout u32
  | u64 : ExactLayout u64
  | i32 : ExactLayout i32
  | i64 : ExactLayout i64
  | f32 : ExactLayout f32
  | f64 : ExactLayout f64
  | text : ExactLayout text
  | bytes : ExactLayout bytes
  | attributeType : ExactLayout attributeType
  | value : ExactLayout value
  | event : ExactLayout event
  | snapshot : ExactLayout snapshot
  | extensionConfig : ExactLayout extensionConfig
  | option {α : Type} {c : Codec α} : ExactLayout c → ExactLayout c.option
  | list {α : Type} {c : Codec α} : ExactLayout c → ExactLayout c.list
  | pair {α β : Type} {c : Codec α} {d : Codec β} :
      ExactLayout c → ExactLayout d → ExactLayout (c.pair d)
  | record {α β : Type} {c : Codec α} {read : α → β} {write : β → α} :
      ExactLayout c → (∀ b, read (write b) = b) → (∀ a, write (read a) = a) →
      ExactLayout (c.map read write)

theorem ExactLayout.canonical {c : Codec α} (h : ExactLayout c) : c.Canonical := by
  induction h with
  | bool => exact canonical_bool
  | u8 => exact canonical_u8
  | u32 => exact canonical_u32
  | u64 => exact canonical_u64
  | i32 => exact canonical_i32
  | i64 => exact canonical_i64
  | f32 => exact canonical_f32
  | f64 => exact canonical_f64
  | text => exact canonical_text
  | bytes => exact canonical_bytes
  | attributeType => exact canonical_attributeType
  | value => exact canonical_value
  | event => exact canonical_event
  | snapshot => exact canonical_snapshot
  | extensionConfig => exact canonical_extensionConfig
  | option _ ih => exact ih.option
  | list _ ih => exact ih.list
  | pair _ _ ihc ihd => exact ihc.pair ihd
  | record _ _ hwrite ih => exact ih.map hwrite

theorem ExactLayout.stateLayout {c : Codec α} (h : ExactLayout c) : StateLayout c := by
  induction h with
  | option _ ih => exact ih.option
  | list _ ih => exact ih.list
  | pair _ _ ihc ihd => exact ihc.pair ihd
  | record _ hread _ ih => exact ih.record hread
  | _ => constructor

end Codec

end StreamScalar
