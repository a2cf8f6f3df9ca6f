import SchemaDesk.Field
import SchemaDesk.Text.Blank
import SchemaDesk.Text.LetterCase
import SchemaDesk.Text.Pieces

/-!
# Reading field definitions

A field definition describes a field in one line: `email:String?;unique;default=none`. Its head is
a name and a type, which is `String` when it is left out; the type may be followed by `[]` for a
list and by `?` for a field that may be left out, in this order. The segments after the head each
set an attribute, by a word for a flag and by a key and a value for a text. Letter case does not
matter in types, words and keys, blank segments are skipped, and of two segments for one attribute
the later counts.
-/

namespace SchemaDesk

/-- Why a field definition is not understood. -/
inductive DefinitionError where
  /-- The definition is blank. -/
  | empty
  /-- The name is blank; the trimmed definition is given. -/
  | missingName (definition : Text)
  /-- The type names no scalar type; its trimmed text is given. -/
  | unknownType (text : Text)
  /-- A segment sets no attribute; its trimmed word or key is given. -/
  | unknownAttribute (text : Text)
deriving DecidableEq, Repr

/-- The message of an error. -/
def DefinitionError.message : DefinitionError → Text
  | empty => "Empty field definition"
  | missingName definition => "Missing field name in '" ++ definition ++ "'"
  | unknownType text =>
    "Unknown type '" ++ text ++ "'. Use one of: " ++
      ", ".intercalate (ScalarType.all.map ScalarType.name)
  | unknownAttribute text => "Unknown attribute '" ++ text ++ "'"

namespace Definition

/-- An attribute and the value it is set to. -/
structure Setting where
  /-- The attribute. -/
  attr : Attribute
  /-- Its value. -/
  value : attr.Value

/-- The lower-case words that set a flag. -/
def flagWords : List (Text × Setting) :=
  [("id", ⟨.isId, true⟩), ("unique", ⟨.isUnique, true⟩), ("updatedat", ⟨.isUpdatedAt, true⟩)]

/-- The lower-case keys that set a text. -/
def valueKeys : List (Text × (Text → Setting)) :=
  [("default", (⟨.defaultValue, ·⟩)), ("map", (⟨.mapName, ·⟩)),
    ("fields", (⟨.relationFields, ·⟩)), ("references", (⟨.relationReferences, ·⟩))]

/-- The word that a text is looked up by: trimmed and in lower case. -/
def word (text : Text) : Text := text.trim.lower

/-- A text without the given ending, if it ends so. -/
def withoutEnd? (ending text : Text) : Option Text :=
  if ending.isSuffixOf text then some (text.take (text.length - ending.length)) else none

/-- Whether a text has an ending, and the text without it. -/
def splitEnd (ending text : Text) : Bool × Text :=
  match withoutEnd? ending text with
  | some rest => (true, rest)
  | none => (false, text)

/-- The settings of the type part of a head: the type, list and optional. -/
def readType (text : Text) : Except DefinitionError (List Setting) :=
  let optional := splitEnd "?" text.trim
  let array := splitEnd "[]" optional.2
  match ScalarType.ofWord? (word array.2) with
  | some type => .ok [⟨.type, type⟩, ⟨.isArray, array.1⟩, ⟨.isOptional, optional.1⟩]
  | none => .error (.unknownType text.trim)

/-- The setting of a segment that is not blank. -/
def readSegment (segment : Text) : Except DefinitionError Setting :=
  let text := segment.trim
  match text.cutFirst '=' with
  | some (key, value) =>
    match valueKeys.lookup (word key) with
    | some setting => .ok (setting value.trim)
    | none => .error (.unknownAttribute key.trim)
  | none =>
    match flagWords.lookup (word text) with
    | some setting => .ok setting
    | none => .error (.unknownAttribute text)

/-- The settings of segments in order, the blank ones skipped. -/
def readSegments : List Text → Except DefinitionError (List Setting)
  | [] => .ok []
  | segment :: rest => do
    if segment.isBlank then readSegments rest
    else return (← readSegment segment) :: (← readSegments rest)

/-- The settings of a head; the whole definition is quoted when the name is blank. -/
def readHead (definition head : Text) : Except DefinitionError (List Setting) :=
  let parts := (head.cutFirst ':').getD (head, "String")
  let name := parts.1.trim
  if name = [] then .error (.missingName definition)
  else (readType parts.2).map (⟨.name, name⟩ :: ·)

/-- The attributes that settings set, one after another. -/
def changesOf (settings : List Setting) : Changes :=
  settings.foldl (fun changes setting => changes.set setting.attr setting.value) {}

/-- The attributes that a field definition gives. -/
def parse (text : Text) : Except DefinitionError Changes := do
  let definition := text.trim
  if definition = [] then .error .empty
  else
    let cut := definition.pieces ';'
    let head ← readHead definition cut.1
    let segments ← readSegments cut.2
    return changesOf (head ++ segments)

/-- The attributes of several definitions; the first error counts. -/
def parseAll (texts : List Text) : Except DefinitionError (List Changes) := texts.mapM parse

end Definition

end SchemaDesk
