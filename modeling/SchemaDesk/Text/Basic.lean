/-!
# Texts

A text is a list of code points. Besides characters it may hold halves of surrogate pairs, which
the escapes of a JSON string can spell one by one. A half stands for itself: it is no character, and
only a text without halves is whole and can be written out. Two neighbouring halves are one
character only where the source of the text counts in code units; `Text.ofElements` joins them
there. The fixed words of the library are strings, and a string stands for its text wherever a text
is wanted.
-/

namespace SchemaDesk

/-- A code point of a text. -/
inductive CodePoint where
  /-- A character. -/
  | char (c : Char)
  /-- A half of a surrogate pair, by its distance from the first one. -/
  | half (offset : Fin 2048)
deriving DecidableEq, Repr

namespace CodePoint

/-- A character is a code point. -/
instance : Coe Char CodePoint := ⟨char⟩

/-- The number of a code point. -/
def number : CodePoint → Nat
  | char c => c.toNat
  | half offset => 0xD800 + offset.val

/-- The code point with a number, if there is one. -/
def ofNumber? (number : Nat) : Option CodePoint :=
  if number.isValidChar then some (char (Char.ofNat number))
  else if inRange : 0xD800 ≤ number ∧ number < 0xE000 then
    some (half ⟨number - 0xD800, by omega⟩)
  else none

/-- Whether a code point is a character. -/
def isChar : CodePoint → Bool
  | char _ => true
  | half _ => false

/-- The character that a first and a second half make up. -/
def joined? : CodePoint → CodePoint → Option CodePoint
  | half first, half second =>
    if first.val < 1024 ∧ 1024 ≤ second.val then
      some (char (Char.ofNat (0x10000 + 1024 * first.val + (second.val - 1024))))
    else none
  | _, _ => none

/-- A code point is found by its number. -/
theorem ofNumber?_number (point : CodePoint) : ofNumber? point.number = some point := by
  cases point with
  | char c =>
    have valid : c.toNat.isValidChar := c.valid
    simp [ofNumber?, number, valid]
  | half offset =>
    have small := offset.isLt
    have invalid : ¬ (0xD800 + offset.val).isValidChar := by
      simp only [Nat.isValidChar]
      omega
    rw [number, ofNumber?, if_neg invalid, dif_pos ⟨by omega, by omega⟩]
    exact congrArg (fun same => some (half same)) (Fin.ext (Nat.add_sub_cancel_left ..))

end CodePoint

/-- A text: code points in order. -/
abbrev Text : Type := List CodePoint

namespace Text

/-- The characters of a string as a text. -/
def ofString (string : String) : Text := string.toList.map .char

/-- A string is a text of characters. -/
instance : Coe String Text := ⟨ofString⟩

/-- Whether a text is made of characters only. -/
def isWhole (text : Text) : Bool := text.all CodePoint.isChar

/-- The character that shows a code point: the replacement character for a half. -/
def shownChar : CodePoint → Char
  | .char c => c
  | .half _ => '\uFFFD'

/-- A text as a string to be shown. -/
def shown (text : Text) : String := String.ofList (text.map shownChar)

/-- What the source of a text gives: code points, or code units of which two may be one
character. -/
inductive Element where
  /-- A code point. -/
  | point (point : CodePoint)
  /-- A code unit. -/
  | unit (unit : CodePoint)
deriving DecidableEq, Repr

/-- The text of elements: a code unit is joined with the next element where both are the halves of
one character. -/
def ofElements : List Element → Text
  | [] => []
  | .point point :: rest => point :: ofElements rest
  | .unit first :: .unit second :: rest =>
    match CodePoint.joined? first second with
    | some point => point :: ofElements rest
    | none => first :: ofElements (.unit second :: rest)
  | .unit unit :: rest => unit :: ofElements rest

/-- A string is shown as itself. -/
@[simp]
theorem shown_ofString (string : String) : shown (ofString string) = string := by
  simp [shown, ofString, Function.comp_def, shownChar]

/-- Two strings are equal when they are the same text. -/
theorem ofString_inj {left right : String} : ofString left = ofString right ↔ left = right := by
  constructor
  · intro same
    rw [← shown_ofString left, same, shown_ofString]
  · exact congrArg ofString

/-- The text of a string is whole. -/
@[simp]
theorem isWhole_ofString (string : String) : isWhole (ofString string) = true := by
  simp [isWhole, ofString, CodePoint.isChar]

/-- A whole text is the text of the string that shows it. -/
theorem ofString_shown {text : Text} (whole : text.isWhole = true) :
    ofString text.shown = text := by
  simp only [ofString, shown, String.toList_ofList, List.map_map]
  conv => rhs; rw [← List.map_id text]
  apply List.map_congr_left
  intro point mem
  cases point with
  | char c => rfl
  | half offset => exact absurd (List.all_eq_true.mp whole _ mem) (by simp [CodePoint.isChar])

/-- Code points stand for themselves. -/
theorem ofElements_points (text : Text) : ofElements (text.map .point) = text := by
  induction text with
  | nil => rfl
  | cons point rest ih => simp [ofElements, ih]

end Text

end SchemaDesk
