import StreamScalar.Toml.Text

/-!
# Numbers, dates and times of TOML
-/

namespace StreamScalar

namespace Toml

/-- Digits of a class, with single underscores between them, starting with a digit. -/
def digitRun (isDigit : Char → Bool) : (fuel : Nat) → Read (List Char)
  | 0 => Reader.fail (.expected "a digit")
  | fuel + 1 => do
    let digits ← Reader.takeWhile1 isDigit (.expected "a digit")
    if ← Reader.optional '_' then return digits ++ (← digitRun isDigit fuel) else return digits

/-- A run of digits with underscores. -/
def digits (isDigit : Char → Bool) : Read (List Char) := do
  digitRun isDigit ((← get).length + 1)

/-- The digits of a decimal integer: no zero in front of other digits. -/
def wholeDigits : Read (List Char) := do
  if ← Reader.optional '0' then return ['0'] else digits Char.isDigit

/-- An integer, if it has 64 bits. -/
def integer (n : Int) : Read Scalar :=
  if Int64.minValue.toInt ≤ n ∧ n ≤ Int64.maxValue.toInt then return .integer n
  else Reader.fail (.outOfRange "an integer")

/-- Whether a sign comes next and is a minus; the sign is passed over. -/
def minus : Read Bool := do
  if ← Reader.optional '-' then return true
  let _ ← Reader.optional '+'
  return false

/-- The fraction and exponent behind whole digits, and the number that they make. A number too
large to be finite is refused if it is positive. -/
def float (negative : Bool) (whole : List Char) : Read Scalar := do
  let fraction ← if ← Reader.optional '.' then digits Char.isDigit else pure []
  let hasExponent := (← Reader.peek?).any fun c => c == 'e' || c == 'E'
  let exponent : Int ← if hasExponent then
      Reader.skip 1
      let down ← minus
      let n := Text.digitsValue 10 (← digits Char.isDigit)
      pure (if down then -(n : Int) else n)
    else pure 0
  let x := Decimal.nearest negative
    ⟨Text.digitsValue 10 (whole ++ fraction), exponent - fraction.length⟩
  if x = .infinity false then Reader.fail (.outOfRange "a number") else return .float x

/-- A number: an integer in a base, a decimal integer, or a float. Only decimal numbers have a
sign. -/
def number : Read Scalar := do
  let inBase := fun (base : Nat) (isDigit : Char → Bool) => do
    Reader.skip 2
    integer (Text.digitsValue base (← digits isDigit))
  if ← Reader.looksAt "0x" then inBase 16 Text.isHexDigit
  else if ← Reader.looksAt "0o" then inBase 8 fun c => '0' ≤ c && c ≤ '7'
  else if ← Reader.looksAt "0b" then inBase 2 fun c => c == '0' || c == '1'
  else
    let negative ← minus
    if ← Reader.looksAt "inf" then
      Reader.skip 3
      return .float (.infinity negative)
    else if ← Reader.looksAt "nan" then
      Reader.skip 3
      return .float .undefined
    else
      let whole ← wholeDigits
      if (← Reader.peek?).any fun c => c == '.' || c == 'e' || c == 'E' then float negative whole
      else
        let n : Int := Text.digitsValue 10 whole
        integer (if negative then -n else n)

/-- A number of a fixed count of digits between two bounds. -/
def field (count least greatest : Nat) : Read Nat := do
  let digits := (← get).take count
  let n := Text.digitsValue 10 digits
  if digits.length = count ∧ digits.all Char.isDigit then
    if least ≤ n ∧ n ≤ greatest then
      Reader.skip count
      return n
    else Reader.fail (.outOfRange "a date or time")
  else Reader.fail (.expected "digits")

def daysOf (year month : Nat) : Nat :=
  let isLeap := year % 4 == 0 && (year % 100 != 0 || year % 400 == 0)
  match month with
  | 2 => if isLeap then 29 else 28
  | 4 | 6 | 9 | 11 => 30
  | _ => 31

def date : Read Unit := do
  let year ← field 4 0 9999
  Reader.expect "-" (.expected "a dash")
  let month ← field 2 1 12
  Reader.expect "-" (.expected "a dash")
  let _ ← field 2 1 (daysOf year month)

def clock : Read Unit := do
  let _ ← field 2 0 23
  Reader.expect ":" (.expected "a colon")
  let _ ← field 2 0 59

/-- A time of day: hours, minutes, seconds up to a leap second, perhaps with a fraction. -/
def time : Read Unit := do
  clock
  Reader.expect ":" (.expected "a colon")
  let _ ← field 2 0 60
  if ← Reader.optional '.' then
    let _ ← Reader.takeWhile1 Char.isDigit (.expected "a digit")

/-- The distance from universal time, if one is given. -/
def offset : Read Unit := do
  match ← Reader.peek? with
  | some 'Z' | some 'z' => Reader.skip 1
  | some '+' | some '-' =>
    Reader.skip 1
    clock
  | _ => return

def startsField (count : Nat) (mark : Char) (cs : List Char) : Bool :=
  let digits := cs.take count
  digits.length == count && digits.all Char.isDigit && (cs.drop count).head? == some mark

/-- Whether a date comes next: four digits and a dash begin nothing else. -/
def startsDate : List Char → Bool := startsField 4 '-'

/-- Whether a time comes next: two digits and a colon begin nothing else. -/
def startsTime : List Char → Bool := startsField 2 ':'

/-- A date, a time, or a date and a time with or without an offset. -/
def dateTime : Read Scalar := do
  let start ← get
  if startsDate start then
    date
    match ← get with
    | c :: rest =>
      if (c == 'T' || c == 't' || c == ' ') && startsTime rest then
        set rest
        time
        offset
    | [] => pure ()
  else time
  return .dateTime (String.ofList (start.take (start.length - (← get).length)))

end Toml

end StreamScalar
