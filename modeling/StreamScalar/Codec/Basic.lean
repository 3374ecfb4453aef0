import StreamScalar.Binary32
import StreamScalar.Codec.Error

/-!
# Codecs

A codec writes values of a type as bytes and reads one value from the front of a sequence of bytes,
returning what follows it. Numbers are little endian of fixed width; a length is a 64-bit number in
front of what it counts; a text is its UTF-8 octets behind their length; a truth value and the mark
of an optional value are one byte; an alternative is a 32-bit number; the fields of a record follow
one another.

* `Codec.word`, `Codec.text`, `Codec.list`, `Codec.option`, `Codec.pair`, `Codec.map` : what codecs
  are made of.
-/

namespace StreamScalar

/-- A byte layout for the values of a type. -/
structure Codec (α : Type) where
  encode : α → List UInt8
  decode : List UInt8 → Except DecodeError (α × List UInt8)

namespace Codec

variable {α β : Type}

/-- A number in `width` bytes, the least significant first. -/
def littleEndian : (width n : Nat) → List UInt8
  | 0, _ => []
  | width + 1, n => UInt8.ofNat n :: littleEndian width (n / 256)

/-- The number in the first `width` bytes. -/
def readLittleEndian : (width : Nat) → List UInt8 → Except DecodeError (Nat × List UInt8)
  | 0, bytes => .ok (0, bytes)
  | _ + 1, [] => .error .unexpectedEnd
  | width + 1, b :: rest => do
    let (high, rest) ← readLittleEndian width rest
    return (b.toNat + 256 * high, rest)

def word (width : Nat) : Codec Nat where
  encode := littleEndian width
  decode := readLittleEndian width

/-- The same bytes, for a type whose values correspond to those of another. -/
def map (c : Codec α) (read : α → β) (write : β → α) : Codec β where
  encode b := c.encode (write b)
  decode bytes := do
    let (a, rest) ← c.decode bytes
    return (read a, rest)

def pair (c : Codec α) (d : Codec β) : Codec (α × β) where
  encode ab := c.encode ab.1 ++ d.encode ab.2
  decode bytes := do
    let (a, rest) ← c.decode bytes
    let (b, rest) ← d.decode rest
    return ((a, b), rest)

/-! ## Numbers of fixed width

A signed number has the bytes of the unsigned number with the same bits, and a number with a
fraction those of its bits. -/

def u8 : Codec UInt8 := (word 1).map UInt8.ofNat UInt8.toNat
def u32 : Codec UInt32 := (word 4).map UInt32.ofNat UInt32.toNat
def u64 : Codec UInt64 := (word 8).map UInt64.ofNat UInt64.toNat
def i32 : Codec Int32 := u32.map UInt32.toInt32 Int32.toUInt32
def i64 : Codec Int64 := u64.map UInt64.toInt64 Int64.toUInt64
def f32 : Codec Binary32 := u32.map Binary32.mk Binary32.bits
def f64 : Codec Binary64 := u64.map Binary64.mk Binary64.bits

/-! ## Truth values, optional values, lists and texts -/

/-- A length in front of what it counts. -/
def length : Codec Nat := word 8

/-- One byte, zero or one. -/
def bool : Codec Bool where
  encode b := [if b then 1 else 0]
  decode
    | [] => .error .unexpectedEnd
    | b :: rest =>
      if b = 0 then .ok (false, rest)
      else if b = 1 then .ok (true, rest)
      else .error (.invalidBool b)

/-- One byte, zero for no value and one in front of a value. -/
def option (c : Codec α) : Codec (Option α) where
  encode
    | none => [0]
    | some a => 1 :: c.encode a
  decode
    | [] => .error .unexpectedEnd
    | b :: rest =>
      if b = 0 then .ok (none, rest)
      else if b = 1 then do
        let (a, rest) ← c.decode rest
        return (some a, rest)
      else .error (.invalidOptionMark b)

/-- As many values as counted, one after another. -/
def decodeMany (c : Codec α) : (count : Nat) → List UInt8 → Except DecodeError (List α × List UInt8)
  | 0, bytes => .ok ([], bytes)
  | count + 1, bytes => do
    let (a, rest) ← c.decode bytes
    let (more, rest) ← decodeMany c count rest
    return (a :: more, rest)

/-- The values of a list behind their number. -/
def list (c : Codec α) : Codec (List α) where
  encode as := length.encode as.length ++ as.flatMap c.encode
  decode bytes := do
    let (count, rest) ← length.decode bytes
    decodeMany c count rest

/-- The octets of a text behind their number. The length is judged before the octets. -/
def text : Codec String where
  encode s := length.encode (Utf8.encode s).length ++ Utf8.encode s
  decode bytes := do
    let (count, rest) ← length.decode bytes
    if rest.length < count then .error .textPastEnd
    else
      match Utf8.decode (rest.take count) with
      | .ok s => .ok (s, rest.drop count)
      | .error fault => .error (.invalidText fault)

def bytes : Codec (List UInt8) := list u8

end Codec

end StreamScalar
