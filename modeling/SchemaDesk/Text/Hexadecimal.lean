import SchemaDesk.Text.Basic

/-!
# Hexadecimal digits

Natural numbers written in lower-case hexadecimal digits, filled with zeros to a least width.
-/

namespace SchemaDesk.Text

/-- The hexadecimal digits of a number in lower case, filled with zeros to a least width. -/
def hexDigits (width number : Nat) : Text :=
  let digits := Nat.toDigits 16 number
  (List.replicate (width - digits.length) '0' ++ digits).map .char

end SchemaDesk.Text
