import StreamScalar.Text.Utf8

/-!
# Why bytes could not be decoded
-/

namespace StreamScalar

inductive DecodeError where
  | unexpectedEnd
  /-- The length of a text goes past the end of the bytes. -/
  | textPastEnd
  | invalidBool (found : UInt8)
  /-- The mark of an optional value is neither zero nor one. -/
  | invalidOptionMark (found : UInt8)
  /-- There is no alternative of the number found. -/
  | invalidVariant (found : UInt32) (count : Nat)
  | invalidText (fault : Utf8.Fault)
  /-- A cause that a host states itself. -/
  | stated (text : String)
  deriving DecidableEq

def DecodeError.message : DecodeError → String
  | unexpectedEnd => "io error: unexpected end of file"
  | textPastEnd => "io error: "
  | invalidBool found =>
    s!"invalid u8 while decoding bool, expected 0 or 1, found {found.toNat}"
  | invalidOptionMark found => s!"tag for enum is not valid, found {found.toNat}"
  | invalidVariant found count =>
    s!"invalid value: integer `{found.toNat}`, expected variant index 0 <= i < {count}"
  | invalidText fault => s!"string is not valid utf8: {fault.message}"
  | stated text => text

end StreamScalar
