import StreamScalar.Codec.Basic
import StreamScalar.Config.Basic
import StreamScalar.Event
import StreamScalar.Snapshot

/-!
# Codecs of the library's types

The layouts of attribute types, values, events, snapshots and configurations, and snapshots of
encoded state.

* `Snapshot.encode`, `Snapshot.decode` : state as a snapshot and back, under a version.
-/

namespace StreamScalar

namespace Codec

/-- An attribute type is its number in `AttributeType.all`. -/
def attributeType : Codec AttributeType where
  encode t := u32.encode (UInt32.ofNat (AttributeType.all.idxOf t))
  decode bytes := do
    let (index, rest) ← u32.decode bytes
    match AttributeType.all[index.toNat]? with
    | some t => .ok (t, rest)
    | none => .error (.invalidVariant index AttributeType.all.length)

/-- A value is the number of its alternative and what it holds. -/
def value : Codec Value where
  encode
    | .int n => u32.encode 0 ++ i32.encode n
    | .long n => u32.encode 1 ++ i64.encode n
    | .float x => u32.encode 2 ++ f32.encode x
    | .double x => u32.encode 3 ++ f64.encode x
    | .bool b => u32.encode 4 ++ bool.encode b
    | .string s => u32.encode 5 ++ text.encode s
  decode bytes := do
    let (index, rest) ← u32.decode bytes
    let holding {α : Type} (c : Codec α) (make : α → Value) := do
      let (a, rest) ← c.decode rest
      return (make a, rest)
    match index.toNat with
    | 0 => holding i32 .int
    | 1 => holding i64 .long
    | 2 => holding f32 .float
    | 3 => holding f64 .double
    | 4 => holding bool .bool
    | 5 => holding text .string
    | _ => .error (.invalidVariant index 6)

/-- The time stamp of an event and then its attributes. -/
def event : Codec Event :=
  (i64.pair (list value.option)).map (fun p => ⟨p.1, p.2⟩) fun e => (e.timestamp, e.data)

/-- The version of a snapshot and then its data. -/
def snapshot : Codec Snapshot :=
  (u32.pair bytes).map (fun p => ⟨p.1, p.2⟩) fun s => (s.version, s.data)

/-- The namespace of a configuration and then the disabled names. -/
def extensionConfig : Codec ExtensionConfig :=
  (text.pair (list text)).map (fun p => ⟨p.1, p.2⟩) fun c => (c.ns, c.disabled)

/-- The value at the front of some bytes; what follows it is ignored. -/
def decodeFirst {α : Type} (c : Codec α) (data : List UInt8) : Except DecodeError α :=
  (c.decode data).map (·.1)

end Codec

namespace Snapshot

variable {α : Type}

/-- State encoded under a version. -/
def encode (version : UInt32) (c : Codec α) (state : α) : Snapshot :=
  ⟨version, c.encode state⟩

/-- The state in a snapshot of the expected version. The version is judged before the bytes. -/
def decode (s : Snapshot) (expected : UInt32) (c : Codec α) : Except StateError α :=
  if s.version = expected then (c.decodeFirst s.data).mapError StateError.decode
  else .error (.versionMismatch expected s.version)

end Snapshot

end StreamScalar
