import StreamScalar.Proofs.Codec.Canonical

/-!
# Malformed bytes are refused

What is refused is spelled out by `Malformed`: a truth value or an optional mark other than zero and
one, a number without an alternative, a text that is not UTF-8, a length that goes past the end. Any
of them may stand at the beginning or behind any number of parts that are in order, since what comes
first is read first (`Malformed.exists_error`). Bytes that stop inside an encoding are refused too:
no encoding begins with another one.

* `Snapshot.readsExactly` : the bytes that a snapshot is read from are those of the state that is
  read, and all others are refused.
-/

namespace StreamScalar

namespace Codec

variable {α β : Type}

/-- Bytes that go wrong at their beginning, or behind parts that are in order. -/
inductive Malformed : {α : Type} → Codec α → List UInt8 → Prop
  | truthValue {byte : UInt8} {rest : List UInt8} : byte ≠ 0 → byte ≠ 1 →
      Malformed bool (byte :: rest)
  | optionMark {α : Type} {c : Codec α} {mark : UInt8} {rest : List UInt8} : mark ≠ 0 → mark ≠ 1 →
      Malformed c.option (mark :: rest)
  | typeIndex {index : UInt32} {rest : List UInt8} : 7 ≤ index.toNat →
      Malformed attributeType (u32.encode index ++ rest)
  | valueIndex {index : UInt32} {rest : List UInt8} : 6 ≤ index.toNat →
      Malformed value (u32.encode index ++ rest)
  | octets {octets rest : List UInt8} : (∀ s, Utf8.encode s ≠ octets) →
      Malformed text (length.encode octets.length ++ (octets ++ rest))
  | textLength {count : Nat} {rest : List UInt8} : count < 2 ^ 64 → rest.length < count →
      Malformed text (length.encode count ++ rest)
  | listLength {α : Type} {c : Codec α} {count : Nat} {rest : List UInt8} : ExactLayout c →
      count < 2 ^ 64 → rest.length < count → Malformed c.list (length.encode count ++ rest)
  | heldBool {bytes : List UInt8} : Malformed bool bytes → Malformed value (u32.encode 4 ++ bytes)
  | heldText {bytes : List UInt8} : Malformed text bytes → Malformed value (u32.encode 5 ++ bytes)
  | marked {α : Type} {c : Codec α} {bytes : List UInt8} : Malformed c bytes →
      Malformed c.option (1 :: bytes)
  | element {α : Type} {c : Codec α} {as : List α} {count : Nat} {bytes : List UInt8} :
      ExactLayout c → as.length < count → count < 2 ^ 64 → Malformed c bytes →
      Malformed c.list (length.encode count ++ (as.flatMap c.encode ++ bytes))
  | first {α β : Type} {c : Codec α} {d : Codec β} {bytes : List UInt8} : Malformed c bytes →
      Malformed (c.pair d) bytes
  | second {α β : Type} {c : Codec α} {d : Codec β} {a : α} {bytes : List UInt8} : ExactLayout c →
      Malformed d bytes → Malformed (c.pair d) (c.encode a ++ bytes)
  | record {α β : Type} {c : Codec α} {read : α → β} {write : β → α} {bytes : List UInt8} :
      Malformed c bytes → Malformed (c.map read write) bytes

theorem ExactLayout.faithful {c : Codec α} (h : ExactLayout c) : c.Faithful :=
  h.stateLayout.faithful

/-! ## What is wrong at the beginning -/

theorem decode_attributeType_error {index : UInt32} (h : 7 ≤ index.toNat) (rest : List UInt8) :
    attributeType.decode (u32.encode index ++ rest) = .error (.invalidVariant index 7) := by
  have hnone : AttributeType.all[index.toNat]? = none := List.getElem?_eq_none h
  simp only [attributeType, decode_index, bind, Except.bind, hnone]
  rfl

theorem decode_value_error {index : UInt32} (h : 6 ≤ index.toNat) (rest : List UInt8) :
    value.decode (u32.encode index ++ rest) = .error (.invalidVariant index 6) := by
  simp only [value, decode_index, bind, Except.bind]
  split
  case h_7 => rfl
  all_goals omega

theorem exists_error_text {octets rest : List UInt8} (h : ∀ s, Utf8.encode s ≠ octets)
    (hsize : octets.length < 2 ^ 64) :
    ∃ cause, text.decode (length.encode octets.length ++ (octets ++ rest)) = .error cause := by
  cases hoctets : Utf8.decode octets with
  | ok s => exact absurd (Utf8.eq_encode_of_decode hoctets).symm (h s)
  | error fault =>
    refine ⟨.invalidText fault, ?_⟩
    simp only [text, decode_length hsize, bind, Except.bind, List.length_append, List.take_left,
      hoctets]
    rw [if_neg (by omega)]

theorem decode_text_pastEnd {count : Nat} {rest : List UInt8} (hcount : count < 2 ^ 64)
    (h : rest.length < count) :
    text.decode (length.encode count ++ rest) = .error .textPastEnd := by
  simp only [text, decode_length hcount, bind, Except.bind, if_pos h]

theorem exists_error_list {c : Codec α} (layout : ExactLayout c) {count : Nat} {rest : List UInt8}
    (hcount : count < 2 ^ 64) (h : rest.length < count) :
    ∃ cause, c.list.decode (length.encode count ++ rest) = .error cause := by
  apply exists_error_of_ne_ok
  rintro ⟨as, rest'⟩ hread
  simp only [Codec.list, decode_length hcount, bind, Except.bind] at hread
  obtain ⟨hlength, hrest⟩ := decodeMany_eq_ok layout.canonical hread
  have htaken := layout.faithful.length_le as
  have hsum := congrArg List.length hrest
  rw [List.length_append] at hsum
  omega

/-! ## What is wrong behind parts in order -/

theorem decodeMany_error {c : Codec α} (hc : c.Faithful) {bytes : List UInt8} {cause : DecodeError}
    (h : c.decode bytes = .error cause) {as : List α} {count : Nat} (hcount : as.length < count)
    (hsize : (as.flatMap c.encode).length < 2 ^ 64) :
    decodeMany c count (as.flatMap c.encode ++ bytes) = .error cause := by
  induction as generalizing count with
  | nil =>
    cases count with
    | zero => exact absurd hcount (by simp)
    | succ count =>
      rw [List.flatMap_nil, List.nil_append, decodeMany, h]
      rfl
  | cons a as ih =>
    cases count with
    | zero => exact absurd hcount (by simp)
    | succ count =>
      rw [List.length_cons] at hcount
      rw [List.flatMap_cons, List.length_append] at hsize
      rw [List.flatMap_cons, List.append_assoc, decodeMany, hc.decode_encode a _ (by omega)]
      simp only [bind, Except.bind]
      rw [ih (by omega) (by omega)]

theorem Malformed.exists_error {c : Codec α} {data : List UInt8} (h : Malformed c data)
    (hsize : data.length < 2 ^ 64) : ∃ cause, c.decode data = .error cause := by
  induction h with
  | truthValue hzero hone =>
    exact ⟨_, by simp only [bool, if_neg hzero, if_neg hone]; rfl⟩
  | optionMark hzero hone =>
    exact ⟨_, by simp only [Codec.option, if_neg hzero, if_neg hone]; rfl⟩
  | typeIndex hindex => exact ⟨_, decode_attributeType_error hindex _⟩
  | valueIndex hindex => exact ⟨_, decode_value_error hindex _⟩
  | octets hoctets =>
    simp only [List.length_append] at hsize
    exact exists_error_text hoctets (by omega)
  | textLength hcount hend => exact ⟨_, decode_text_pastEnd hcount hend⟩
  | listLength layout hcount hend => exact exists_error_list layout hcount hend
  | heldBool _ ih =>
    rw [List.length_append] at hsize
    exact exists_error_bind (ih (by omega)) _
  | heldText _ ih =>
    rw [List.length_append] at hsize
    exact exists_error_bind (ih (by omega)) _
  | marked _ ih =>
    rw [List.length_cons] at hsize
    exact exists_error_bind (ih (by omega)) _
  | element layout hmore hcount _ ih =>
    simp only [List.length_append] at hsize
    obtain ⟨cause, hcause⟩ := ih (by omega)
    refine ⟨cause, ?_⟩
    simp only [Codec.list, decode_length hcount, bind, Except.bind]
    exact decodeMany_error layout.faithful hcause hmore (by omega)
  | first _ ih => exact exists_error_bind (ih hsize) _
  | @second _ _ c d a bytes layout _ ih =>
    rw [List.length_append] at hsize
    have hfirst := layout.faithful.decode_encode a bytes (by omega)
    simp only [Codec.pair, hfirst]
    exact exists_error_bind (ih (by omega)) _
  | record _ ih => exact exists_error_bind (ih hsize) _

/-- No encoding begins with another one. -/
theorem ExactLayout.exists_error_of_cut {c : Codec α} (layout : ExactLayout c) {a : α}
    {data : List UInt8} (hsize : (c.encode a).length < 2 ^ 64) (hfront : data <+: c.encode a)
    (hne : data ≠ c.encode a) : ∃ cause, c.decode data = .error cause := by
  apply exists_error_of_ne_ok
  rintro ⟨b, rest⟩ hread
  have hdata := layout.canonical data b rest hread
  obtain ⟨missing, hwhole⟩ := hfront
  have hlength := congrArg List.length hwhole
  rw [hdata, List.length_append, List.length_append] at hlength
  -- what is read of the cut bytes is also read of the whole encoding, and there it leaves something
  have hshort := layout.faithful.decode_encode b (rest ++ missing) (by omega)
  have hfull := layout.faithful.decode_encode a [] hsize
  rw [← List.append_assoc, ← hdata, hwhole] at hshort
  rw [List.append_nil, hshort] at hfull
  have hnothing := congrArg Prod.snd (Except.ok.inj hfull)
  obtain ⟨-, rfl⟩ := List.append_eq_nil_iff.mp hnothing
  rw [List.append_nil] at hwhole
  exact hne hwhole

end Codec

/-! ## Snapshots -/

namespace Snapshot

open Codec (ExactLayout Malformed)

variable {α : Type}

/-- The bytes that state is read from are its encoding, and others are refused. -/
structure ReadsExactly (version : UInt32) (c : Codec α) : Prop where
  encoded_of_decode : ∀ data state, decode ⟨version, data⟩ version c = .ok state →
    (encode version c state).data <+: data
  decode_of_encoded : ∀ data state, data.length < 2 ^ 64 →
    (encode version c state).data <+: data → decode ⟨version, data⟩ version c = .ok state
  /-- No other bytes of which nothing is left over hold the same state. -/
  eq_of_decode : ∀ data data' state, c.decode data = .ok (state, []) →
    c.decode data' = .ok (state, []) → data = data'
  /-- Malformed bytes are refused, wherever they go wrong. -/
  malformed : ∀ data, data.length < 2 ^ 64 → Malformed c data →
    ∃ cause, decode ⟨version, data⟩ version c = .error (.decode cause)
  cut : ∀ data state, (encode version c state).data.length < 2 ^ 64 →
    data <+: (encode version c state).data → data ≠ (encode version c state).data →
    ∃ cause, decode ⟨version, data⟩ version c = .error (.decode cause)

theorem decode_eq_ok_iff {c : Codec α} {version : UInt32} {data : List UInt8} {state : α} :
    decode ⟨version, data⟩ version c = .ok state ↔ ∃ rest, c.decode data = .ok (state, rest) := by
  rw [decode, if_pos rfl, Codec.decodeFirst]
  cases hread : c.decode data with
  | error cause => simp [Except.map, Except.mapError]
  | ok read => simp [Except.map, Except.mapError, Prod.ext_iff]

theorem exists_decode_error {c : Codec α} {version : UInt32} {data : List UInt8}
    (h : ∃ cause, c.decode data = .error cause) :
    ∃ cause, decode ⟨version, data⟩ version c = .error (.decode cause) := by
  obtain ⟨cause, hcause⟩ := h
  refine ⟨cause, ?_⟩
  rw [decode, if_pos rfl, Codec.decodeFirst, hcause]
  rfl

/-- **Exactly the encodings are read**, of state in every layout that loses nothing. -/
theorem readsExactly {c : Codec α} (layout : ExactLayout c) (version : UInt32) :
    ReadsExactly version c where
  encoded_of_decode data state h := by
    obtain ⟨rest, hread⟩ := decode_eq_ok_iff.mp h
    exact ⟨rest, (layout.canonical data state rest hread).symm⟩
  decode_of_encoded data state hsize hfront := by
    obtain ⟨rest, rfl⟩ := hfront
    rw [List.length_append] at hsize
    exact decode_eq_ok_iff.mpr ⟨rest, layout.faithful.decode_encode state rest (by
      change (c.encode state).length + _ < _ at hsize
      omega)⟩
  eq_of_decode data data' state h h' := by
    rw [layout.canonical data state [] h, layout.canonical data' state [] h']
  malformed data hsize h := exists_decode_error (h.exists_error hsize)
  cut data state hsize hfront hne :=
    exists_decode_error (layout.exists_error_of_cut hsize hfront hne)

/-- An event whose only attribute is a text, and that text the overlong form of the character zero. -/
theorem readsExactly_event :
    let data : List UInt8 := [0, 0, 0, 0, 0, 0, 0, 0, 1, 0, 0, 0, 0, 0, 0, 0, 1, 5, 0, 0, 0,
      2, 0, 0, 0, 0, 0, 0, 0, 0xC0, 0x80]
    ReadsExactly 3 .event ∧ Malformed .event data ∧
      ∃ cause, decode ⟨3, data⟩ 3 .event = .error (.decode cause) := by
  intro data
  have hexact : ReadsExactly 3 .event := readsExactly .event 3
  have hoctets : ∀ s, Utf8.encode s ≠ [0xC0, 0x80] := by
    intro s h
    have hread := Utf8.decode_encode s
    rw [h] at hread
    cases hread
  have htext : Malformed .text (Codec.length.encode 2 ++ ([0xC0, 0x80] ++ [])) := .octets hoctets
  have hattributes : Malformed (.list (.option .value)) (Codec.length.encode 1 ++
      (([] : List (Option Value)).flatMap (Codec.option .value).encode ++ (1 :: _))) :=
    .element (.option .value) (by decide) (by decide) (.marked (.heldText htext))
  have hmalformed : Malformed .event data := .record (.second (a := 0) .i64 hattributes)
  exact ⟨hexact, hmalformed, hexact.malformed data (by decide) hmalformed⟩

end Snapshot

end StreamScalar
