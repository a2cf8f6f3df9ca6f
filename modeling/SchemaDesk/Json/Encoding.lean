import SchemaDesk.Json.Reader

/-!
# Encodings of JSON texts

A JSON text comes as bytes in one of five encodings. A byte order mark in front of it tells which
one; else it begins with an ASCII character, or two, and the encoding is told by the zeros among the
first bytes. Every encoding may encode halves of surrogate pairs like other code points.
-/

namespace SchemaDesk.Json

/-- An encoding of texts. -/
inductive Encoding where
  /-- Units of one byte. -/
  | utf8
  /-- Units of two bytes, the greater byte first or last. -/
  | utf16 (greaterFirst : Bool)
  /-- Units of four bytes, the greatest byte first or last. -/
  | utf32 (greatestFirst : Bool)
deriving DecidableEq, Repr

namespace Encoding

/-- The bytes of the byte order marks that tell an encoding, the longer ones first. -/
def marks : List (List UInt8 × Encoding) :=
  [([0x00, 0x00, 0xFE, 0xFF], .utf32 true), ([0xFF, 0xFE, 0x00, 0x00], .utf32 false),
    ([0xFE, 0xFF], .utf16 true), ([0xFF, 0xFE], .utf16 false)]

/-- The encoding that bytes without a byte order mark are in. -/
def ofZeros : List UInt8 → Encoding
  | a :: b :: c :: d :: _ =>
    if a = 0 then (if b = 0 then .utf32 true else .utf16 true)
    else if b = 0 then (if c = 0 ∧ d = 0 then .utf32 false else .utf16 false)
    else .utf8
  | [a, b] => if a = 0 then .utf16 true else if b = 0 then .utf16 false else .utf8
  | _ => .utf8

/-- The encoding that bytes are in. -/
def detect (bytes : List UInt8) : Encoding :=
  match marks.find? (·.1.isPrefixOf bytes) with
  | some (_, encoding) => encoding
  | none => ofZeros bytes

/-- The number that bytes stand for, the greatest first. -/
def number (bytes : List UInt8) : Nat :=
  bytes.foldl (fun value byte => 256 * value + byte.toNat) 0

/-- The number of a sequence of bytes in UTF-8 from the bits of its first byte, where the bytes
after it have to begin with the bits one and zero. -/
def continued? (lead : Nat) (bytes : List UInt8) : Option Nat :=
  if bytes.all fun byte => 0x80 ≤ byte && byte < 0xC0 then
    some (bytes.foldl (fun value byte => 64 * value + (byte.toNat - 0x80)) lead)
  else none

/-- The code point of a sequence of bytes in UTF-8 that must not fit a shorter one. -/
def point? (least lead : Nat) (bytes : List UInt8) : Option CodePoint := do
  let number ← continued? lead bytes
  if least ≤ number then CodePoint.ofNumber? number else none

/-- The text of bytes in UTF-8. -/
def decodeBytes? : List UInt8 → Option Text
  | [] => some []
  | a :: rest =>
    if a < 0x80 then return .char (Char.ofNat a.toNat) :: (← decodeBytes? rest)
    else if 0xC0 ≤ a ∧ a < 0xE0 then
      match rest with
      | b :: rest => do
        return (← point? 0x80 (a.toNat - 0xC0) [b]) :: (← decodeBytes? rest)
      | _ => none
    else if 0xE0 ≤ a ∧ a < 0xF0 then
      match rest with
      | b :: c :: rest => do
        return (← point? 0x800 (a.toNat - 0xE0) [b, c]) :: (← decodeBytes? rest)
      | _ => none
    else if 0xF0 ≤ a ∧ a < 0xF8 then
      match rest with
      | b :: c :: d :: rest => do
        return (← point? 0x10000 (a.toNat - 0xF0) [b, c, d]) :: (← decodeBytes? rest)
      | _ => none
    else none

/-- The code units of bytes in UTF-16. -/
def decodePairs? (greaterFirst : Bool) : List UInt8 → Option (List Text.Element)
  | [] => some []
  | [_] => none
  | a :: b :: rest => do
    let unit ← CodePoint.ofNumber? (number (if greaterFirst then [a, b] else [b, a]))
    return .unit unit :: (← decodePairs? greaterFirst rest)

/-- The text of bytes in UTF-32. -/
def decodeQuads? (greatestFirst : Bool) : List UInt8 → Option Text
  | [] => some []
  | a :: b :: c :: d :: rest => do
    let point ← CodePoint.ofNumber? (number (if greatestFirst then [a, b, c, d] else [d, c, b, a]))
    return point :: (← decodeQuads? greatestFirst rest)
  | _ => none

/-- A text without a byte order mark in front. -/
def withoutMark : Text → Text
  | .char '\uFEFF' :: rest => rest
  | text => text

/-- The text of bytes in an encoding; none when the bytes are no text in it. -/
def decode? (encoding : Encoding) (bytes : List UInt8) : Option Text :=
  let decoded := match encoding with
    | utf8 => decodeBytes? bytes
    | utf16 greaterFirst => (decodePairs? greaterFirst bytes).map Text.ofElements
    | utf32 greatestFirst => decodeQuads? greatestFirst bytes
  decoded.map withoutMark

end Encoding

/-- Why bytes are not read. -/
inductive BytesError where
  /-- The bytes are no text in the encoding they seem to be in. -/
  | undecodable
  /-- The text is not read. -/
  | unread (error : ReadError)
deriving DecidableEq, Repr

/-- Reads the JSON text that bytes are the encoding of. -/
def readBytes (bytes : List UInt8) : Except BytesError Json :=
  match (Encoding.detect bytes).decode? bytes with
  | some text => (read text).mapError .unread
  | none => .error .undecodable

end SchemaDesk.Json
