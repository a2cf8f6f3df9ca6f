import SchemaDesk.Text.Blank
import SchemaDesk.Text.Pieces

/-!
# Integers written in decimal

Two readings of a decimal integer, which may be padded with white space. Both take an optional sign
and digits, where one underscore may stand between two digits, and both refuse more digits than
`maxDigits`. `int?` takes the digits of any script, all of which count. `lenientInt` takes ASCII
digits only; it skips zeros in front of them, and a fraction made of zeros after them.
-/

namespace SchemaDesk.Text.Numeral

/-- The zero of every set of ten decimal digits; the nine other digits follow it. -/
def zeros : List Nat :=
  [0x30, 0x660, 0x6F0, 0x7C0, 0x966, 0x9E6, 0xA66, 0xAE6, 0xB66, 0xBE6, 0xC66, 0xCE6, 0xD66,
    0xDE6, 0xE50, 0xED0, 0xF20, 0x1040, 0x1090, 0x17E0, 0x1810, 0x1946, 0x19D0, 0x1A80, 0x1A90,
    0x1B50, 0x1BB0, 0x1C40, 0x1C50, 0xA620, 0xA8D0, 0xA900, 0xA9D0, 0xA9F0, 0xAA50, 0xABF0,
    0xFF10, 0x104A0, 0x10D30, 0x11066, 0x110F0, 0x11136, 0x111D0, 0x112F0, 0x11450, 0x114D0,
    0x11650, 0x116C0, 0x11730, 0x118E0, 0x11950, 0x11C50, 0x11D50, 0x11DA0, 0x16A60, 0x16AC0,
    0x16B50, 0x1D7CE, 0x1D7D8, 0x1D7E2, 0x1D7EC, 0x1D7F6, 0x1E140, 0x1E2F0, 0x1E950, 0x1FBF0]

/-- The value of a decimal digit of any script. -/
def digit? (point : CodePoint) : Option Nat :=
  (zeros.find? fun base => base ≤ point.number && point.number < base + 10).map
    (point.number - ·)

/-- The value of an ASCII decimal digit. -/
def asciiDigit? (point : CodePoint) : Option Nat :=
  if 48 ≤ point.number ∧ point.number ≤ 57 then some (point.number - 48) else none

/-- The digits of an unsigned numeral; one underscore may stand between two digits. -/
def digits? (value? : CodePoint → Option Nat) : Text → Option (List Nat)
  | [] => none
  | [point] => (value? point).map ([·])
  | point :: next :: rest => do
    let digit ← value? point
    if next = .char '_' then
      match rest with
      | [] => none
      | _ :: _ => return digit :: (← digits? value? rest)
    else return digit :: (← digits? value? (next :: rest))

/-- The number that digits stand for, the first the most significant. -/
def ofDigits (digits : List Nat) : Nat := digits.foldl (fun value digit => 10 * value + digit) 0

/-- The sign of a numeral, true for a minus, and the rest of it. -/
def sign : Text → Bool × Text
  | .char '-' :: rest => (true, rest)
  | .char '+' :: rest => (false, rest)
  | rest => (false, rest)

/-- The integer with a sign, true for minus, and decimal digits. -/
def toInt (negative : Bool) (digits : List Nat) : Int :=
  if negative then -(ofDigits digits : Int) else (ofDigits digits : Int)

/-- The most digits an integer may be written with. -/
def maxDigits : Nat := 4300

/-- Whether a code point is one of the white-space property: the blank ones without the four
information separators. -/
def isWhiteSpace (point : CodePoint) : Bool :=
  point.isBlank && !inRanges [(0x1C, 0x1F)] point.number

/-- A text without the white space at its ends. -/
def unpadded (text : Text) : Text :=
  ((text.dropWhile isWhiteSpace).reverse.dropWhile isWhiteSpace).reverse

/-- Reads an integer in the digits of any script. -/
def int? (text : Text) : Option Int := do
  let (negative, unsigned) := sign (unpadded text)
  let digits ← digits? digit? unsigned
  if digits.length ≤ maxDigits then some (toInt negative digits) else none

/-- Why a text is not read as an integer. -/
inductive Fault where
  /-- The text is no numeral. -/
  | malformed
  /-- The text begins with more digits than are read. -/
  | oversized
deriving DecidableEq, Repr

/-- Whether more digits than are read stand at the front of a text, where a minus may come before
them. After a zero in front, no digits are counted. -/
def isOversized (text : Text) : Bool :=
  let unsigned := if text.head? = some (.char '-') then text.tail else text
  unsigned.head? != some (.char '0') &&
    (unsigned.takeWhile fun point => (asciiDigit? point).isSome).length > maxDigits

/-- An unsigned numeral after a zero in front of it: the zeros and underscores after that zero are
skipped too, but one is kept where no digit follows; the last one skipped is given. -/
def afterZero (last : CodePoint) : Text → Text
  | [] => [last]
  | point :: rest =>
    if point = .char '0' ∨ point = .char '_' then afterZero point rest
    else if point = .char '.' then last :: point :: rest
    else point :: rest

/-- An unsigned numeral without the zeros in front. -/
def withoutZeros : Text → Text
  | [] => []
  | point :: rest => if point = .char '0' then afterZero point rest else point :: rest

/-- A numeral without its fraction, when that is made of zeros. -/
def withoutFraction (text : Text) : Text :=
  match text.cutFirst '.' with
  | some (whole, fraction) =>
    if fraction ≠ [] ∧ fraction.all (· = .char '0') then whole else text
  | none => text

/-- Reads an integer in ASCII digits. The digits that are too many are told apart only where they
stand at the very front. -/
def lenientInt (text : Text) : Except Fault Int :=
  if isOversized text then .error .oversized
  else
    let (negative, unsigned) := sign (unpadded text)
    match digits? asciiDigit? (withoutFraction (withoutZeros unsigned)) with
    | some digits =>
      if digits.length ≤ maxDigits then .ok (toInt negative digits) else .error .malformed
    | none => .error .malformed

end SchemaDesk.Text.Numeral
