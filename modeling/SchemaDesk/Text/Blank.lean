import SchemaDesk.Text.Basic

/-!
# Blank characters

Which code points count as blank, and the trimming of blank ones from the ends of a text.
-/

namespace SchemaDesk

/-- Whether a number lies in one of the closed ranges of a table. -/
def inRanges (table : List (Nat × Nat)) (number : Nat) : Bool :=
  table.any fun range => range.1 ≤ number && number ≤ range.2

namespace CodePoint

/-- The closed ranges of the blank characters: the characters with the white-space property, and
the four information separators U+001C to U+001F. -/
def blankRanges : List (Nat × Nat) :=
  [(0x09, 0x0D), (0x1C, 0x20), (0x85, 0x85), (0xA0, 0xA0), (0x1680, 0x1680), (0x2000, 0x200A),
    (0x2028, 0x2029), (0x202F, 0x202F), (0x205F, 0x205F), (0x3000, 0x3000)]

/-- Whether a code point is blank. -/
def isBlank (point : CodePoint) : Bool := inRanges blankRanges point.number

end CodePoint

namespace Text

/-- A text without the blank code points at its start. -/
def trimStart (text : Text) : Text := text.dropWhile CodePoint.isBlank

/-- A text without the blank code points at its end. -/
def trimEnd (text : Text) : Text := (text.reverse.dropWhile CodePoint.isBlank).reverse

/-- A text without the blank code points at its ends. -/
def trim (text : Text) : Text := trimEnd (trimStart text)

/-- Whether a text holds blank code points only; the empty text is blank. -/
def isBlank (text : Text) : Bool := text.all CodePoint.isBlank

end Text

end SchemaDesk
