/-!
# UTF-8

Characters as octets and back. A lead octet fixes how many octets follow and the range of the first
of them; that range excludes overlong forms, surrogates and numbers past the last character. A
sequence is refused at the first octet that no character could continue with.

* `Utf8.encode` : the octets of a text.
* `Utf8.decode` : the text of octets, or where and why they are no UTF-8.
-/

namespace StreamScalar

namespace Utf8

/-- Why octets are no UTF-8: a sequence that starts at `index` and whose first `length` octets begin
no character with the octet after them, or one that ends too early. -/
inductive Fault where
  | invalid (length index : Nat)
  | incomplete (index : Nat)
  deriving DecidableEq, Repr

def Fault.message : Fault → String
  | invalid length index => s!"invalid utf-8 sequence of {length} bytes from index {index}"
  | incomplete index => s!"incomplete utf-8 byte sequence from index {index}"

def octet (n : Nat) : UInt8 := UInt8.ofNat n

/-- The octets of a character: the number in groups of six bits behind a lead octet. -/
def encodeChar (c : Char) : List UInt8 :=
  let n := c.toNat
  if n < 0x80 then [octet n]
  else if n < 0x800 then [octet (0xC0 + n / 64), octet (0x80 + n % 64)]
  else if n < 0x10000 then
    [octet (0xE0 + n / 4096), octet (0x80 + n / 64 % 64), octet (0x80 + n % 64)]
  else
    [octet (0xF0 + n / 262144), octet (0x80 + n / 4096 % 64), octet (0x80 + n / 64 % 64),
      octet (0x80 + n % 64)]

def encode (s : String) : List UInt8 :=
  s.toList.flatMap encodeChar

def size (cs : List Char) : Nat :=
  cs.foldl (fun n c => n + c.utf8Size) 0

/-- A character of which some octets have been read. -/
structure Pending where
  /-- How many octets are still owed. -/
  owed : Nat
  /-- The least value the next octet may have. -/
  low : Nat
  high : Nat
  seen : Nat
  code : Nat

/-- What a lead octet of at least `0x80` announces. -/
def lead? (b : Nat) : Option Pending :=
  if 0xC2 ≤ b ∧ b ≤ 0xDF then some ⟨1, 0x80, 0xBF, 1, b - 0xC0⟩
  else if b = 0xE0 then some ⟨2, 0xA0, 0xBF, 1, 0⟩
  else if b = 0xED then some ⟨2, 0x80, 0x9F, 1, 13⟩
  else if 0xE1 ≤ b ∧ b ≤ 0xEF then some ⟨2, 0x80, 0xBF, 1, b - 0xE0⟩
  else if b = 0xF0 then some ⟨3, 0x90, 0xBF, 1, 0⟩
  else if b = 0xF4 then some ⟨3, 0x80, 0x8F, 1, 4⟩
  else if 0xF1 ≤ b ∧ b ≤ 0xF3 then some ⟨3, 0x80, 0xBF, 1, b - 0xF0⟩
  else none

/-- Reads characters from octets, the next whole character starting at `index`, where `pending` may
hold the beginning of it. -/
def decodeFrom (index : Nat) : Option Pending → List UInt8 → Except Fault (List Char)
  | none, [] => .ok []
  | some _, [] => .error (.incomplete index)
  | none, b :: rest =>
    if b.toNat < 0x80 then do
      let chars ← decodeFrom (index + 1) none rest
      return Char.ofNat b.toNat :: chars
    else
      match lead? b.toNat with
      | some p => decodeFrom index (some p) rest
      | none => .error (.invalid 1 index)
  | some p, b :: rest =>
    if p.low ≤ b.toNat ∧ b.toNat ≤ p.high then
      let code := p.code * 64 + b.toNat % 64
      if p.owed ≤ 1 then do
        let chars ← decodeFrom (index + p.seen + 1) none rest
        return Char.ofNat code :: chars
      else decodeFrom index (some ⟨p.owed - 1, 0x80, 0xBF, p.seen + 1, code⟩) rest
    else .error (.invalid p.seen index)

def decode (octets : List UInt8) : Except Fault String :=
  (decodeFrom 0 none octets).map String.ofList

end Utf8

end StreamScalar
