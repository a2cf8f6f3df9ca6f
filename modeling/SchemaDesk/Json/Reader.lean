import SchemaDesk.Json.Value
import SchemaDesk.Text.Numeral

/-!
# Reading JSON texts

The reader of JSON texts. It accepts the JSON grammar and the three literals `NaN`, `Infinity` and
`-Infinity`. Of two members with one key the later value counts, at the place of the earlier. Two
neighbouring escapes that spell the halves of a character are that character; any other half stands
for itself. Arrays and objects may lie in one another down to `Reader.maxDepth`. Recursion runs on a
fuel that the length of the text bounds.
-/

namespace SchemaDesk.Json

/-- Why a text is not read. -/
inductive ReadError where
  /-- The text is not JSON. -/
  | malformed
  /-- An integer has more digits than are read. -/
  | oversizedInteger
  /-- Too many arrays and objects lie in one another. -/
  | tooDeep
deriving DecidableEq, Repr

namespace Reader

/-- The outcome of reading a value from the front of a text: the value and the text after it. -/
abbrev Parsed (α : Type) := Except ReadError (α × Text)

/-- The most arrays and objects that may lie in one another. -/
def maxDepth : Nat := 960

/-- Whether a code point may stand between two tokens. -/
def isSpace (point : CodePoint) : Bool :=
  point = .char ' ' || point = .char '\t' || point = .char '\n' || point = .char '\r'

/-- The text after the white space at its front. -/
def skipSpace (text : Text) : Text := text.dropWhile isSpace

/-- The value of a hexadecimal digit. -/
def hexDigit? (point : CodePoint) : Option Nat :=
  let code := point.number
  if 48 ≤ code ∧ code ≤ 57 then some (code - 48)
  else if 97 ≤ code ∧ code ≤ 102 then some (code - 87)
  else if 65 ≤ code ∧ code ≤ 70 then some (code - 55)
  else none

/-- The code unit written with four hexadecimal digits. -/
def codeUnit? (a b c d : CodePoint) : Option CodePoint := do
  CodePoint.ofNumber?
    (4096 * (← hexDigit? a) + 256 * (← hexDigit? b) + 16 * (← hexDigit? c) + (← hexDigit? d))

/-- The character that a backslash and a letter stand for. -/
def escaped? (point : CodePoint) : Option CodePoint :=
  let escapes : List (CodePoint × CodePoint) :=
    [('\x22', '\x22'), ('\x5c', '\x5c'), ('/', '/'), ('b', '\x08'), ('f', '\x0c'), ('n', '\n'),
      ('r', '\r'), ('t', '\t')]
  escapes.lookup point

/-- The elements of a string up to its closing quotation mark, escapes resolved one by one, and the
text after the mark. -/
def stringElements : Text → Parsed (List Text.Element)
  | [] => .error .malformed
  | .char '\x22' :: rest => .ok ([], rest)
  | .char '\x5c' :: .char 'u' :: a :: b :: c :: d :: rest =>
    match codeUnit? a b c d with
    | none => .error .malformed
    | some unit => (stringElements rest).map fun parsed => (.unit unit :: parsed.1, parsed.2)
  | .char '\x5c' :: letter :: rest =>
    match escaped? letter with
    | none => .error .malformed
    | some point => (stringElements rest).map fun parsed => (.point point :: parsed.1, parsed.2)
  | point :: rest =>
    if point.number < 0x20 ∨ point = .char '\x5c' then .error .malformed
    else (stringElements rest).map fun parsed => (.point point :: parsed.1, parsed.2)

/-- The string up to its closing quotation mark, and the text after the mark. -/
def string (text : Text) : Parsed Text :=
  (stringElements text).map fun parsed => (Text.ofElements parsed.1, parsed.2)

/-- Whether a code point is an ASCII digit. -/
def isDigit (point : CodePoint) : Bool := (Text.Numeral.asciiDigit? point).isSome

/-- The values of the digits at the front of a text, and the text after them. -/
def spanDigits (text : Text) : List Nat × Text :=
  ((text.takeWhile isDigit).filterMap Text.Numeral.asciiDigit?, text.dropWhile isDigit)

/-- The fraction digits at the front of a text; none when no digit follows a point. -/
def spanFraction : Text → List Nat × Text
  | .char '.' :: rest =>
    if (spanDigits rest).1 = [] then ([], .char '.' :: rest) else spanDigits rest
  | text => ([], text)

/-- The exponent at the front of a text, if there is one, and the text after it. -/
def spanExponent : Text → Option Int × Text
  | mark :: rest =>
    if mark = .char 'e' ∨ mark = .char 'E' then
      let (negative, unsigned) := Text.Numeral.sign rest
      let digits := spanDigits unsigned
      if digits.1 = [] then (none, mark :: rest)
      else (some (Text.Numeral.toInt negative digits.1), digits.2)
    else (none, mark :: rest)
  | [] => (none, [])

/-- The number at the front of a text. -/
def number (text : Text) : Parsed Number :=
  let negative := text.head? = some (.char '-')
  let unsigned := if negative then text.tail else text
  let whole := match unsigned with
    | .char '0' :: rest => ([0], rest)
    | _ => spanDigits unsigned
  let fraction := spanFraction whole.2
  let exponent := spanExponent fraction.2
  if whole.1 = [] then .error .malformed
  else if fraction.1 = [] ∧ exponent.1 = none then
    if whole.1.length ≤ Text.Numeral.maxDigits then
      .ok (.integer (Text.Numeral.toInt negative whole.1), whole.2)
    else .error .oversizedInteger
  else
    let digits := whole.1 ++ fraction.1
    let scale := exponent.1.getD 0 - fraction.1.length
    .ok (.ofDecimal negative (Text.Numeral.ofDigits digits) digits.length scale, exponent.2)

/-- The literals that are no numbers of digits, strings, arrays or objects. -/
def literals : List (Text × Json) :=
  [("null", .null), ("true", .bool true), ("false", .bool false), ("NaN", .number .nonFinite),
    ("Infinity", .number .nonFinite), ("-Infinity", .number .nonFinite)]

/-- The literal at the front of a text and the text after it. -/
def literal? (text : Text) : Option (Json × Text) :=
  (literals.find? fun entry => entry.1.isPrefixOf text).map fun entry =>
    (entry.2, text.drop entry.1.length)

mutual

/-- The value at the front of a text, where so many arrays and objects may lie in one another. -/
def value : Nat → Nat → Text → Parsed Json
  | 0, _, _ => .error .malformed
  | _ + 1, _, [] => .error .malformed
  | _ + 1, _, .char '\x22' :: rest =>
    (string rest).map fun parsed => (.string parsed.1, parsed.2)
  | _ + 1, 0, .char '[' :: _ => .error .tooDeep
  | fuel + 1, depth + 1, .char '[' :: rest =>
    match skipSpace rest with
    | .char ']' :: rest => .ok (.array [], rest)
    | rest => items fuel depth [] rest
  | _ + 1, 0, .char '\x7b' :: _ => .error .tooDeep
  | fuel + 1, depth + 1, .char '\x7b' :: rest =>
    match skipSpace rest with
    | .char '\x7d' :: rest => .ok (.object [], rest)
    | rest => members fuel depth [] rest
  | _ + 1, _, text =>
    match literal? text with
    | some found => .ok found
    | none => (number text).map fun parsed => (.number parsed.1, parsed.2)

/-- The items of an array from its next item on, after those already read. -/
def items : Nat → Nat → List Json → Text → Except ReadError (Json × Text)
  | 0, _, _, _ => .error .malformed
  | fuel + 1, depth, read, text => do
    let (item, rest) ← value fuel depth text
    match skipSpace rest with
    | .char ',' :: rest => items fuel depth (read ++ [item]) (skipSpace rest)
    | .char ']' :: rest => .ok (.array (read ++ [item]), rest)
    | _ => .error .malformed

/-- The members of an object from its next member on, after those already read. -/
def members : Nat → Nat → Members → Text → Except ReadError (Json × Text)
  | 0, _, _, _ => .error .malformed
  | fuel + 1, depth, read, .char '\x22' :: text => do
    let (key, rest) ← string text
    match skipSpace rest with
    | .char ':' :: rest =>
      let (content, rest) ← value fuel depth (skipSpace rest)
      match skipSpace rest with
      | .char ',' :: rest => members fuel depth (put key content read) (skipSpace rest)
      | .char '\x7d' :: rest => .ok (.object (put key content read), rest)
      | _ => .error .malformed
    | _ => .error .malformed
  | _ + 1, _, _, _ => .error .malformed

end

end Reader

/-- Reads a JSON text. -/
def read (text : Text) : Except ReadError Json := do
  let (content, rest) ←
    Reader.value (2 * text.length + 2) Reader.maxDepth (Reader.skipSpace text)
  if Reader.skipSpace rest = [] then .ok content else .error .malformed

end SchemaDesk.Json
