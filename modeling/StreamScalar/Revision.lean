import StreamScalar.Text.Digits

/-!
# Revisions

A revision of an application is known by a name. A host may choose the name; a capture may also be
given one by its number, which differs from those of other captures and from all that are chosen.
-/

namespace StreamScalar

inductive Revision where
  | chosen (text : String)
  /-- The name that the capture of a number made. -/
  | made (number : Nat)
  deriving DecidableEq

namespace Revision

/-- The text of a revision. The ones that captures made are written short, by their numbers. -/
def text : Revision → String
  | chosen text => text
  | made number => s!"@{number}"

/-- The revision that a text means when `count` captures have made theirs: one of these by its
number, or else the one that a host chose to call so. -/
def ofText (count : Nat) (text : String) : Revision :=
  match text.toList with
  | '@' :: digits =>
    let number := Text.digitsValue 10 digits
    if !digits.isEmpty && digits.all Char.isDigit && number < count then made number
    else chosen text
  | _ => chosen text

end Revision

end StreamScalar
