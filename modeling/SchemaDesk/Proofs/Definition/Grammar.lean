import SchemaDesk.Definition.Parser
import SchemaDesk.Proofs.Text.LetterCase
import SchemaDesk.Proofs.Text.Separated
/-!
# The grammar of field definitions

Which texts are field definitions, said without reading them: `IsDefinition` is put together from
the forms of a type, a head and a segment, and a word counts in any case of its ASCII letters. The
parser accepts these texts and refuses all others (`Definition.parse_accepts_grammar`). Each of its
readers is first turned round: from what it gives, what was written.
-/

namespace SchemaDesk.Definition

/-! ## The forms of a definition -/

/-- The words that name a type. -/
def typeWords : List Text :=
  ["string", "str", "int", "integer", "bigint", "float", "decimal", "boolean", "bool", "datetime",
    "json", "dict", "bytes"]

/-- The words that stand before an equals sign. -/
def keyWords : List Text := ["default", "map", "fields", "references"]

/-- The words that stand alone. -/
def bareWords : List Text := ["id", "unique", "updatedAt"]

/-- Whether a text is one of some words, up to the case of ASCII letters. -/
def Spells (words : List Text) (text : Text) : Prop := ∃ word ∈ words, text.SameUpToCase word

/-- The marks behind a type: first the one of a list, then the one of a field that may be left out.
-/
def marks (array optional : Bool) : Text :=
  (if array then Text.ofString "[]" else []) ++ (if optional then Text.ofString "?" else [])

/-- The form of a type: a word with its marks. -/
def IsType (text : Text) : Prop :=
  ∃ base array optional, text.trim = base ++ marks array optional ∧ Spells typeWords base.trim

/-- The form of a head: a name that is not blank, and behind a colon a type. -/
inductive IsHead : Text → Prop
  /-- The type is given. -/
  | typed {name type : Text} (first : .char ':' ∉ name) (named : name.isBlank = false)
      (form : IsType type) : IsHead (name ++ .char ':' :: type)
  /-- The type is left out. -/
  | untyped {name : Text} (free : .char ':' ∉ name) (named : name.isBlank = false) : IsHead name

/-- The form of a segment behind the head. -/
inductive IsSegment (segment : Text) : Prop
  /-- A segment may be blank. -/
  | blank (blank : segment.isBlank = true)
  /-- A key is set to a value. -/
  | valued (key value : Text) (written : segment.trim = key ++ .char '=' :: value)
      (first : .char '=' ∉ key) (keyed : Spells keyWords key.trim)
  /-- A word stands alone. -/
  | bare (worded : Spells bareWords segment.trim)

/-- The form of a definition: trimmed, it is not empty, and of the pieces that its semicolons part
it into, the first is a head and the others are segments. -/
def IsDefinition (text : Text) : Prop :=
  text.trim ≠ [] ∧ ∃ head segments,
    text.trim = head ++ segments.flatMap (.char ';' :: ·) ∧
      (∀ piece ∈ head :: segments, .char ';' ∉ piece) ∧
        IsHead head ∧ ∀ segment ∈ segments, IsSegment segment

/-! ## Words in tables -/

/-- A table is looked up with success exactly for the words it is made of. -/
theorem lookup_word_iff {α : Type} {table : List (Text × α)} {words : List Text}
    (keys : table.map Prod.fst = words.map (List.map Content.asciiLower))
    (own : ∀ key ∈ table.map Prod.fst, key.all CodePoint.isOwnLetter = true) (text : Text) :
    (∃ value, table.lookup (word text) = some value) ↔ Spells words text.trim := by
  rw [← Option.isSome_iff_exists, List.lookup_isSome_iff]
  constructor
  · rintro ⟨entry, mem, same⟩
    have listed : entry.1 ∈ table.map Prod.fst := List.mem_map_of_mem mem
    have lowered : text.trim.lower = entry.1 := eq_of_beq same
    rw [Text.lower_eq_iff (own _ listed)] at lowered
    rw [keys] at listed
    obtain ⟨word, word_mem, image⟩ := List.mem_map.mp listed
    exact ⟨word, word_mem, lowered.trans image.symm⟩
  · rintro ⟨spelled, mem, same⟩
    have listed : spelled.map Content.asciiLower ∈ table.map Prod.fst :=
      keys ▸ List.mem_map_of_mem mem
    have lowered : text.trim.lower = spelled.map Content.asciiLower :=
      (Text.lower_eq_iff (own _ listed) _).mpr same
    obtain ⟨entry, entry_mem, key⟩ := List.mem_map.mp listed
    exact ⟨entry, entry_mem, beq_iff_eq.mpr (lowered.trans key.symm)⟩

/-- The table of the types. -/
theorem ofWord?_iff (text : Text) :
    (∃ type, ScalarType.ofWord? (word text) = some type) ↔ Spells typeWords text.trim :=
  lookup_word_iff (by decide) (by decide) text

/-- The table of the keys. -/
theorem valueKeys_iff (text : Text) :
    (∃ setting, valueKeys.lookup (word text) = some setting) ↔ Spells keyWords text.trim :=
  lookup_word_iff (by decide) (by decide) text

/-- The table of the flags. -/
theorem flagWords_iff (text : Text) :
    (∃ setting, flagWords.lookup (word text) = some setting) ↔ Spells bareWords text.trim :=
  lookup_word_iff (by decide) (by decide) text

/-- A text that spells a word holds letters only, up to the blanks around them. -/
theorem notMem_of_spells {words : List Text} {text : Text} {mark : CodePoint}
    (spelled : Spells words text.trim) (inked : mark.isBlank = false)
    (free : ∀ word ∈ words, Content.asciiLower mark ∉ word.map Content.asciiLower) :
    mark ∉ text := by
  obtain ⟨word, mem, same⟩ := spelled
  intro held
  have lowered : Content.asciiLower mark ∈ text.trim.map Content.asciiLower :=
    List.mem_map_of_mem ((Text.mem_trim_iff inked).mpr held)
  rw [show text.trim.map Content.asciiLower = word.map Content.asciiLower from same] at lowered
  exact free word mem lowered

/-! ## Types -/

/-- An ending is split from a text that ends with it. -/
theorem splitEnd_append (ending rest : Text) :
    splitEnd ending (rest ++ ending) = (true, rest) := by
  have ended : ending.isSuffixOf (rest ++ ending) = true :=
    List.isSuffixOf_iff_suffix.mpr (List.suffix_append rest ending)
  have kept : (rest ++ ending).take ((rest ++ ending).length - ending.length) = rest := by
    rw [List.length_append, Nat.add_sub_cancel, List.take_left]
  rw [splitEnd, withoutEnd?, if_pos ended, kept]

/-- An ending is not split from a text that lacks one of its code points. -/
theorem splitEnd_of_notMem {ending text : Text} (mark : CodePoint) (mem : mark ∈ ending)
    (free : mark ∉ text) : splitEnd ending text = (false, text) := by
  have bare : ¬ ending.isSuffixOf text = true := by
    intro ended
    exact free ((List.isSuffixOf_iff_suffix.mp ended).subset mem)
  rw [splitEnd, withoutEnd?, if_neg bare]

/-- An ending is split off exactly when it is there, from a text without one of its code points. -/
theorem splitEnd_marked {ending rest : Text} (mark : CodePoint) (mem : mark ∈ ending)
    (free : mark ∉ rest) (marked : Bool) :
    splitEnd ending (rest ++ if marked then ending else []) = (marked, rest) := by
  cases marked with
  | true => exact splitEnd_append ending rest
  | false =>
    rw [if_neg Bool.false_ne_true, List.append_nil]
    exact splitEnd_of_notMem mark mem free

/-- What is split off an ending and what is left make up the text. -/
theorem splitEnd_parts (ending text : Text) :
    (splitEnd ending text).2 ++ (if (splitEnd ending text).1 then ending else []) = text := by
  rw [splitEnd, withoutEnd?]
  split
  next rest split =>
    obtain ⟨ended, left⟩ := Option.ite_none_right_eq_some.mp split
    obtain ⟨start, rfl⟩ := List.isSuffixOf_iff_suffix.mp ended
    rw [List.length_append, Nat.add_sub_cancel, List.take_left] at left
    rw [Option.some.inj left]
    rfl
  next => simp

/-- The settings of a type. -/
def typeSettings (type : ScalarType) (array optional : Bool) : List Setting :=
  [⟨.type, type⟩, ⟨.isArray, array⟩, ⟨.isOptional, optional⟩]

/-- A type is read from a word with its marks. -/
theorem readType_eq_ok_iff {text : Text} {settings : List Setting} :
    readType text = .ok settings ↔ ∃ base array optional type,
      text.trim = base ++ marks array optional ∧
        ScalarType.ofWord? (word base) = some type ∧
          settings = typeSettings type array optional := by
  constructor
  · intro read
    have optional := splitEnd_parts "?" text.trim
    have array := splitEnd_parts "[]" (splitEnd "?" text.trim).2
    rw [readType] at read
    split at read
    next type found =>
      refine ⟨_, _, _, type, ?_, found, (Except.ok.inj read).symm⟩
      rw [marks, ← List.append_assoc, array, optional]
    next => cases read
  · rintro ⟨base, array, optional, type, written, found, rfl⟩
    have spelled : Spells typeWords base.trim := (ofWord?_iff base).mp ⟨type, found⟩
    -- The word holds no mark of its own, so the marks behind it are split off and no more.
    have noQuestion : .char '?' ∉ base := notMem_of_spells spelled (by decide) (by decide)
    have noBracket : .char ']' ∉ base := notMem_of_spells spelled (by decide) (by decide)
    have optionalSplit : splitEnd "?" text.trim =
        (optional, base ++ if array then Text.ofString "[]" else []) := by
      rw [written, marks, ← List.append_assoc]
      refine splitEnd_marked (.char '?') (by decide) ?_ optional
      rw [List.mem_append, not_or]
      exact ⟨noQuestion, by cases array <;> decide⟩
    have arraySplit : splitEnd "[]" (base ++ if array then Text.ofString "[]" else []) =
        (array, base) := splitEnd_marked (.char ']') (by decide) noBracket array
    rw [readType, optionalSplit, arraySplit, found]
    rfl

/-- A type is read exactly from the texts that have its form. -/
theorem readType_iff (text : Text) : (∃ settings, readType text = .ok settings) ↔ IsType text := by
  constructor
  · rintro ⟨settings, read⟩
    obtain ⟨base, array, optional, type, written, found, -⟩ := readType_eq_ok_iff.mp read
    exact ⟨base, array, optional, written, (ofWord?_iff base).mp ⟨type, found⟩⟩
  · rintro ⟨base, array, optional, written, spelled⟩
    obtain ⟨type, found⟩ := (ofWord?_iff base).mpr spelled
    exact ⟨_, readType_eq_ok_iff.mpr ⟨base, array, optional, type, written, found, rfl⟩⟩

/-! ## Heads -/

/-- The type that is meant where none is given. -/
theorem isType_string : IsType "String" :=
  ⟨"String", false, false, by decide, "string", by decide, by decide⟩

/-- Whether a head is a name with a type behind the first colon, or a name without a colon, for
which `String` is meant. -/
def IsParted (head name type : Text) : Prop :=
  .char ':' ∉ name ∧ (head = name ++ .char ':' :: type ∨ head = name ∧ type = "String")

/-- The name and the type that a head is parted into. -/
theorem cutFirst_getD_iff {head name type : Text} :
    (head.cutFirst ':').getD (head, "String") = (name, type) ↔ IsParted head name type := by
  cases cut : head.cutFirst ':' with
  | none =>
    have free : .char ':' ∉ head := Text.cutFirst_eq_none_iff.mp cut
    rw [Option.getD_none, Prod.mk.injEq]
    constructor
    · rintro ⟨rfl, rfl⟩
      exact ⟨free, .inr ⟨rfl, rfl⟩⟩
    · rintro ⟨-, rfl | ⟨rfl, rfl⟩⟩
      · exact absurd (List.mem_append_right _ List.mem_cons_self) free
      · exact ⟨rfl, rfl⟩
  | some parts =>
    obtain ⟨before, after⟩ := parts
    obtain ⟨free, rfl⟩ := Text.cutFirst_eq_some_iff.mp cut
    rw [Option.getD_some, Prod.mk.injEq]
    constructor
    · rintro ⟨rfl, rfl⟩
      exact ⟨free, .inl rfl⟩
    · rintro ⟨nameFree, same | ⟨rfl, -⟩⟩
      · exact Text.cut_inj free nameFree same
      · exact absurd (List.mem_append_right _ List.mem_cons_self) nameFree

/-- A head is read from a name that is not blank and a type. -/
theorem readHead_eq_ok_iff {definition head : Text} {settings : List Setting} :
    readHead definition head = .ok settings ↔ ∃ name type later,
      IsParted head name type ∧ name.isBlank = false ∧ readType type = .ok later ∧
        settings = ⟨.name, name.trim⟩ :: later := by
  constructor
  · intro read
    rw [readHead] at read
    cases parts : (head.cutFirst ':').getD (head, "String") with
    | mk name type =>
      rw [parts] at read
      split at read
      next => cases read
      next named =>
        rw [Text.trim_eq_nil_iff, Bool.not_eq_true] at named
        cases type_read : readType type with
        | error error => rw [type_read] at read; cases read
        | ok later =>
          rw [type_read] at read
          exact ⟨name, type, later, cutFirst_getD_iff.mp parts, named, type_read,
            (Except.ok.inj read).symm⟩
  · rintro ⟨name, type, later, parted, named, read, rfl⟩
    have left : ¬ name.trim = [] := by
      rw [Text.trim_eq_nil_iff, named]
      exact Bool.false_ne_true
    simp only [readHead, cutFirst_getD_iff.mpr parted, if_neg left, read]
    rfl

/-- A head is read exactly from the texts that have its form. -/
theorem readHead_iff (definition head : Text) :
    (∃ settings, readHead definition head = .ok settings) ↔ IsHead head := by
  constructor
  · rintro ⟨settings, read⟩
    obtain ⟨name, type, later, ⟨free, parts⟩, named, type_read, -⟩ := readHead_eq_ok_iff.mp read
    rcases parts with rfl | ⟨rfl, -⟩
    · exact .typed free named ((readType_iff type).mp ⟨later, type_read⟩)
    · exact .untyped free named
  · intro form
    cases form with
    | typed free named form =>
      obtain ⟨later, read⟩ := (readType_iff _).mpr form
      exact ⟨_, readHead_eq_ok_iff.mpr ⟨_, _, later, ⟨free, .inl rfl⟩, named, read, rfl⟩⟩
    | untyped free named =>
      obtain ⟨later, read⟩ := (readType_iff _).mpr isType_string
      exact ⟨_, readHead_eq_ok_iff.mpr ⟨_, _, later, ⟨free, .inr ⟨rfl, rfl⟩⟩, named, read, rfl⟩⟩

/-! ## Segments -/

/-- A segment is read from a key with its value, or from a word. -/
theorem readSegment_eq_ok_iff {segment : Text} {setting : Setting} :
    readSegment segment = .ok setting ↔
      (∃ (key value : Text) (make : Text → Setting),
        segment.trim = key ++ .char '=' :: value ∧ .char '=' ∉ key ∧
          valueKeys.lookup (word key) = some make ∧ setting = make value.trim) ∨
      (.char '=' ∉ segment.trim ∧ flagWords.lookup (word segment) = some setting) := by
  have again : word segment.trim = word segment := by rw [word, word, Text.trim_trim]
  constructor
  · intro read
    rw [readSegment] at read
    split at read
    next key value cut =>
      obtain ⟨free, written⟩ := Text.cutFirst_eq_some_iff.mp cut
      split at read
      next make found =>
        exact .inl ⟨key, value, make, written, free, found, (Except.ok.inj read).symm⟩
      next => cases read
    next cut =>
      rw [again] at read
      split at read
      next found given =>
        rw [Except.ok.inj read] at given
        exact .inr ⟨Text.cutFirst_eq_none_iff.mp cut, given⟩
      next => cases read
  · rintro (⟨key, value, make, written, free, found, rfl⟩ | ⟨free, found⟩)
    · simp only [readSegment, Text.cutFirst_eq_some_iff.mpr ⟨free, written⟩, found]
    · simp only [readSegment, Text.cutFirst_eq_none_iff.mpr free, again, found]

/-- A segment that is not blank is read exactly when it has the form of one. -/
theorem readSegment_iff {segment : Text} (filled : segment.isBlank = false) :
    (∃ setting, readSegment segment = .ok setting) ↔ IsSegment segment := by
  simp only [readSegment_eq_ok_iff]
  constructor
  · rintro ⟨setting, ⟨key, value, make, written, free, found, -⟩ | ⟨-, found⟩⟩
    · exact .valued key value written free ((valueKeys_iff key).mp ⟨make, found⟩)
    · exact .bare ((flagWords_iff segment).mp ⟨setting, found⟩)
  · intro form
    cases form with
    | blank blank => rw [filled] at blank; cases blank
    | valued key value written free keyed =>
      obtain ⟨make, found⟩ := (valueKeys_iff key).mpr keyed
      exact ⟨_, .inl ⟨key, value, make, written, free, found, rfl⟩⟩
    | bare worded =>
      obtain ⟨setting, found⟩ := (flagWords_iff segment).mpr worded
      have free : .char '=' ∉ segment := notMem_of_spells worded (by decide) (by decide)
      exact ⟨setting, .inr ⟨fun mem => free (Text.mem_of_mem_trim mem), found⟩⟩

/-- A blank segment is skipped. -/
theorem readSegments_cons_of_blank {segment : Text} (blank : segment.isBlank = true)
    (rest : List Text) : readSegments (segment :: rest) = readSegments rest := by
  rw [readSegments, if_pos blank]

/-- A segment that is not blank gives the first setting. -/
theorem readSegments_cons_eq_ok_iff {segment : Text} (filled : segment.isBlank = false)
    {rest : List Text} {settings : List Setting} :
    readSegments (segment :: rest) = .ok settings ↔ ∃ setting later,
      readSegment segment = .ok setting ∧ readSegments rest = .ok later ∧
        settings = setting :: later := by
  rw [readSegments, if_neg (by rw [filled]; exact Bool.false_ne_true)]
  cases readSegment segment with
  | error error => simp [bind, Except.bind]
  | ok setting =>
    cases readSegments rest with
    | error error => simp [bind, Except.bind]
    | ok later => simp [bind, Except.bind, pure, Except.pure, eq_comm]

/-- Segments are read exactly when each of them has the form of one. -/
theorem readSegments_iff (segments : List Text) :
    (∃ settings, readSegments segments = .ok settings) ↔
      ∀ segment ∈ segments, IsSegment segment := by
  induction segments with
  | nil => exact iff_of_true ⟨[], rfl⟩ nofun
  | cons segment rest ih =>
    rw [List.forall_mem_cons, ← ih]
    by_cases blank : segment.isBlank = true
    · rw [readSegments_cons_of_blank blank, and_iff_right (.blank blank)]
    · rw [Bool.not_eq_true] at blank
      rw [← readSegment_iff blank]
      simp only [readSegments_cons_eq_ok_iff blank]
      constructor
      · rintro ⟨settings, setting, later, first, others, -⟩
        exact ⟨⟨setting, first⟩, later, others⟩
      · rintro ⟨⟨setting, first⟩, later, others⟩
        exact ⟨_, setting, later, first, others, rfl⟩

/-! ## Definitions -/

/-- A definition is read from a head and segments. -/
theorem parse_eq_ok_iff {text : Text} {changes : Changes} :
    parse text = .ok changes ↔ text.trim ≠ [] ∧ ∃ head segments headSettings settings,
      (text.trim = head ++ segments.flatMap (.char ';' :: ·) ∧
        ∀ piece ∈ head :: segments, .char ';' ∉ piece) ∧
      readHead text.trim head = .ok headSettings ∧ readSegments segments = .ok settings ∧
        changes = changesOf (headSettings ++ settings) := by
  rw [parse]
  by_cases empty : text.trim = []
  · rw [if_pos empty]
    exact iff_of_false nofun fun written => written.1 empty
  · rw [if_neg empty, and_iff_right empty]
    constructor
    · intro read
      dsimp only at read
      cases headRead : readHead text.trim (text.trim.pieces ';').1 with
      | error error => rw [headRead] at read; cases read
      | ok headSettings =>
        cases later : readSegments (text.trim.pieces ';').2 with
        | error error => rw [headRead, later] at read; cases read
        | ok settings =>
          rw [headRead, later] at read
          exact ⟨_, _, headSettings, settings, Text.pieces_eq_iff.mp rfl, headRead, later,
            (Except.ok.inj read).symm⟩
    · rintro ⟨head, segments, headSettings, settings, written, headRead, later, rfl⟩
      simp only [Text.pieces_eq_iff.mpr written, headRead, later]
      rfl

/-- A text is read exactly when it is a definition. -/
theorem parse_iff (text : Text) : (∃ changes, parse text = .ok changes) ↔ IsDefinition text := by
  constructor
  · rintro ⟨changes, read⟩
    obtain ⟨filled, head, segments, headSettings, settings, ⟨written, free⟩, headRead, later, -⟩ :=
      parse_eq_ok_iff.mp read
    exact ⟨filled, head, segments, written, free, (readHead_iff _ head).mp ⟨headSettings, headRead⟩,
      (readSegments_iff segments).mp ⟨settings, later⟩⟩
  · rintro ⟨filled, head, segments, written, free, headForm, segmentForms⟩
    obtain ⟨headSettings, headRead⟩ := (readHead_iff text.trim head).mpr headForm
    obtain ⟨settings, later⟩ := (readSegments_iff segments).mpr segmentForms
    exact ⟨_, parse_eq_ok_iff.mpr
      ⟨filled, head, segments, headSettings, settings, ⟨written, free⟩, headRead, later, rfl⟩⟩

/-- The parser accepts the texts of the grammar, and for every other text it gives an error. -/
theorem parse_accepts_grammar (text : Text) :
    ((∃ changes, parse text = .ok changes) ↔ IsDefinition text) ∧
      ((∃ error, parse text = .error error) ↔ ¬ IsDefinition text) := by
  refine ⟨parse_iff text, ?_⟩
  rw [← parse_iff]
  cases parse text with
  | ok changes => simp
  | error error => simp

/-- The lower-case form of the dotted capital is not the small letter alone. -/
example : parse "a:Int;İd" = .error (.unknownAttribute "İd") := by rfl

end SchemaDesk.Definition
