import SchemaDesk.Json.Value

/-!
# Writing JSON texts

A JSON value as a text without white space. Members keep their order. A number of the binary format
is written with all its digits, so it is read back as itself; a half of a surrogate pair is written
by its escape. A number that is not finite has no text, and `null` stands for it.
-/

namespace SchemaDesk.Json

/-- A lower-case hexadecimal digit. -/
def hexDigit (value : Nat) : Char := Nat.digitChar (value % 16)

/-- The escape of a code unit. -/
def writeUnit (unit : Nat) : List Char :=
  ['\x5c', 'u', hexDigit (unit / 4096), hexDigit (unit / 256), hexDigit (unit / 16), hexDigit unit]

/-- One code point of a string. -/
def writePoint : CodePoint → List Char
  | .half offset => writeUnit (0xD800 + offset.val)
  | .char c =>
    if c = '\x22' ∨ c = '\x5c' then ['\x5c', c]
    else if c.toNat < 0x20 then writeUnit c.toNat
    else [c]

/-- A string between its quotation marks. -/
def writeText (text : Text) : List Char := '\x22' :: text.flatMap writePoint ++ ['\x22']

/-- A number. The digits of a negative power of two are those of the power of five that ten times
it leaves. -/
def writeNumber : Number → List Char
  | .integer value => (toString value).toList
  | .binary negative significand exponent =>
    let places := (-exponent).toNat
    let scaled := significand * Nat.pow 2 exponent.toNat * Nat.pow 5 places
    let digits := (toString (scaled % Nat.pow 10 places)).toList
    (if negative then ['-'] else []) ++ (toString (scaled / Nat.pow 10 places)).toList ++ ['.'] ++
      (if places = 0 then ['0'] else List.replicate (places - digits.length) '0' ++ digits)
  | .nonFinite => "null".toList

mutual

/-- The characters of a value. -/
def characters : Json → List Char
  | .null => "null".toList
  | .bool true => "true".toList
  | .bool false => "false".toList
  | .number value => writeNumber value
  | .string text => writeText text
  | .array [] => ['[', ']']
  | .array (item :: rest) => '[' :: characters item ++ laterItems rest
  | .object [] => ['\x7b', '\x7d']
  | .object ((key, item) :: rest) =>
    '\x7b' :: writeText key ++ ':' :: characters item ++ laterMembers rest

/-- The items of an array after its first, and its end. -/
def laterItems : List Json → List Char
  | [] => [']']
  | item :: rest => ',' :: characters item ++ laterItems rest

/-- The members of an object after its first, and its end. -/
def laterMembers : Members → List Char
  | [] => ['\x7d']
  | (key, item) :: rest => ',' :: writeText key ++ ':' :: characters item ++ laterMembers rest

end

/-- A value as a JSON text. -/
def write (content : Json) : String := String.ofList (characters content)

end SchemaDesk.Json
