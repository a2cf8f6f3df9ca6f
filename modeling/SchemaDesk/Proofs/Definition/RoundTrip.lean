import Mathlib.Data.List.Forall2
import SchemaDesk.Definition.Printer
import SchemaDesk.Proofs.Definition.Grammar
/-!
# Definitions written and read

What the attributes of a definition can be (`IsRecord`), and that writing and reading are inverse on
them (`Definition.print_parse`): attributes are read back from the definition they are written as,
in whatever order the segments stand, and whatever is read from a text can be written.
-/

namespace SchemaDesk.Definition

/-! ## Attributes that can be written -/

/-- What a definition can say of an attribute: a name and a text are trimmed and hold no semicolon,
a name is not blank and holds no colon, and a flag with a segment of its own is set. -/
def Writable : (attr : Attribute) → attr.Value → Prop
  | .name, name => name.trim = name ∧ name.isBlank = false ∧ .char ':' ∉ name ∧ .char ';' ∉ name
  | .type, _ | .isArray, _ | .isOptional, _ => True
  | .isId, flag | .isUnique, flag | .isUpdatedAt, flag => flag = true
  | .defaultValue, value | .mapName, value | .relationFields, value
  | .relationReferences, value => value.trim = value ∧ .char ';' ∉ value

/-- Whether a value can be written is decided attribute by attribute. -/
instance : (attr : Attribute) → (value : attr.Value) → Decidable (Writable attr value)
  | .name, name => inferInstanceAs (Decidable
      (name.trim = name ∧ name.isBlank = false ∧ .char ':' ∉ name ∧ .char ';' ∉ name))
  | .type, _ | .isArray, _ | .isOptional, _ => inferInstanceAs (Decidable True)
  | .isId, flag | .isUnique, flag | .isUpdatedAt, flag => inferInstanceAs (Decidable (flag = true))
  | .defaultValue, value | .mapName, value | .relationFields, value
  | .relationReferences, value =>
    inferInstanceAs (Decidable (value.trim = value ∧ .char ';' ∉ value))

/-- The attributes that every definition gives. -/
def headAttributes : List Attribute := [.name, .type, .isArray, .isOptional]

/-- Every attribute is given by the head or can be set by a segment. -/
theorem mem_headAttributes_or (attr : Attribute) :
    attr ∈ headAttributes ∨ attr ∈ segmentAttributes := by
  cases attr <;> decide

/-- The settings of a head set its attributes. -/
theorem map_attr_head (name : Text) (type : ScalarType) (array optional : Bool) :
    (⟨.name, name⟩ :: typeSettings type array optional).map Setting.attr = headAttributes := rfl

/-- Attributes as a definition gives them. -/
structure IsRecord (changes : Changes) : Prop where
  /-- The attributes of the head are given. -/
  headed : ∀ attr ∈ headAttributes, (changes.value? attr).isSome = true
  /-- Every value can be written. -/
  writable : ∀ attr value, changes.value? attr = some value → Writable attr value

/-! ## Attributes that settings set -/

/-- An attribute that is set has the value it is set to; the others stay. -/
theorem value?_set (changes : Changes) (attr : Attribute) (value : attr.Value) (other : Attribute) :
    (changes.set attr value).value? other =
      if same : attr = other then some (same ▸ value) else changes.value? other := by
  rw [Changes.set, Changes.value?_ofValues?]

/-- An attribute has a value that a setting sets it to. -/
theorem mem_of_value?_changesOf {settings : List Setting} {attr : Attribute} {value : attr.Value}
    (given : (changesOf settings).value? attr = some value) : ⟨attr, value⟩ ∈ settings := by
  have from_start : ∀ start : Changes, (settings.foldl
      (fun changes setting => changes.set setting.attr setting.value) start).value? attr =
        some value → ⟨attr, value⟩ ∈ settings ∨ start.value? attr = some value := by
    clear given
    -- The settings are taken from the front, so what is set before them varies.
    induction settings with
    | nil => exact fun start given => .inr given
    | cons setting rest ih =>
      intro start given
      rcases ih _ given with later | first
      · exact .inl (List.mem_cons_of_mem _ later)
      · rw [value?_set] at first
        split at first
        next same =>
          subst same
          rw [← Option.some.inj first]
          exact .inl List.mem_cons_self
        next => exact .inr first
  refine (from_start {} given).resolve_right ?_
  cases attr <;> exact nofun

/-- An attribute that a setting sets has a value. -/
theorem isSome_value?_changesOf {settings : List Setting} {setting : Setting}
    (mem : setting ∈ settings) : ((changesOf settings).value? setting.attr).isSome = true := by
  have from_start : ∀ start : Changes,
      (setting ∈ settings ∨ (start.value? setting.attr).isSome = true) → ((settings.foldl
        (fun changes setting => changes.set setting.attr setting.value) start).value?
          setting.attr).isSome = true := by
    clear mem
    induction settings with
    | nil => exact fun start given => given.resolve_left List.not_mem_nil
    | cons first rest ih =>
      intro start given
      refine ih _ ?_
      rw [value?_set]
      by_cases same : first.attr = setting.attr
      · rw [dif_pos same]
        exact .inr rfl
      · rw [dif_neg same]
        rcases given with mem | before
        · rcases List.mem_cons.mp mem with rfl | mem
          · exact absurd rfl same
          · exact .inl mem
        · exact .inr before
  exact from_start {} (.inl mem)

/-- Settings that agree with attributes, and set all that are given, give these attributes. -/
theorem changesOf_eq {settings : List Setting} {changes : Changes}
    (agree : ∀ setting ∈ settings, changes.value? setting.attr = some setting.value)
    (cover : ∀ attr, (changes.value? attr).isSome = true → ∃ setting ∈ settings,
      setting.attr = attr) : changesOf settings = changes := by
  have same : (changesOf settings).value? = changes.value? := by
    funext attr
    cases made : (changesOf settings).value? attr with
    | some value => exact (agree _ (mem_of_value?_changesOf made)).symm
    | none =>
      cases given : changes.value? attr with
      | none => rfl
      | some value =>
        obtain ⟨setting, mem, rfl⟩ := cover attr (by rw [given]; rfl)
        have set := isSome_value?_changesOf mem
        rw [made] at set
        cases set
  rw [← Changes.ofValues?_value? (changesOf settings), same, Changes.ofValues?_value?]

/-! ## Segments that are written -/

/-- A segment that is written for a setting. -/
structure Shows (segment : Text) (setting : Setting) : Prop where
  /-- There are no blanks around it. -/
  trimmed : segment.trim = segment
  /-- There is something to read. -/
  inked : segment.isBlank = false
  /-- It is one piece of a definition. -/
  whole : .char ';' ∉ segment
  /-- The setting is read from it. -/
  read : readSegment segment = .ok setting

/-- The settings of an attribute that a segment can set. -/
def segmentSettings (changes : Changes) (attr : Attribute) : List Setting :=
  if attr ∈ segmentAttributes then ((changes.value? attr).map (Setting.mk attr)).toList else []

/-- The settings of an attribute that a segment can set give its value. -/
theorem mem_segmentSettings_iff {changes : Changes} {attr : Attribute} {setting : Setting} :
    setting ∈ segmentSettings changes attr ↔ setting.attr = attr ∧ attr ∈ segmentAttributes ∧
      changes.value? setting.attr = some setting.value := by
  obtain ⟨set, value⟩ := setting
  rw [segmentSettings]
  split
  next listed =>
    rw [Option.mem_toList, Option.map_eq_some_iff, and_iff_right listed]
    constructor
    · rintro ⟨given, found, same⟩
      cases same
      exact ⟨rfl, found⟩
    · rintro ⟨rfl, found⟩
      exact ⟨value, found, rfl⟩
  next unlisted => exact iff_of_false List.not_mem_nil fun written => unlisted written.2.1

/-- Every segment is written for some setting. -/
theorem exists_shows {segments : List Text} {settings : List Setting}
    (shown : List.Forall₂ Shows segments settings) {segment : Text} (mem : segment ∈ segments) :
    ∃ setting, Shows segment setting := by
  induction shown with
  | nil => exact absurd mem List.not_mem_nil
  | cons first _ ih =>
    rcases List.mem_cons.mp mem with rfl | mem
    · exact ⟨_, first⟩
    · exact ih mem

/-- Settings are read from segments that are written for them. -/
theorem readSegments_of_shows {segments : List Text} {settings : List Setting}
    (shown : List.Forall₂ Shows segments settings) : readSegments segments = .ok settings := by
  induction shown with
  | nil => rfl
  | cons first _ ih =>
    exact (readSegments_cons_eq_ok_iff first.inked).mpr ⟨_, _, first.read, ih, rfl⟩

/-- A flag is written by its word. -/
theorem shows_writeFlag {word : Text} {given : Option Bool} (make : Bool → Setting)
    (trimmed : word.trim = word) (inked : word.isBlank = false) (whole : .char ';' ∉ word)
    (bare : .char '=' ∉ word) (found : flagWords.lookup (Definition.word word) = some (make true))
    (set : ∀ flag, given = some flag → flag = true) :
    List.Forall₂ Shows (writeFlag word given) (given.map make).toList := by
  cases given with
  | none => exact .nil
  | some flag =>
    obtain rfl : flag = true := set flag rfl
    have read : readSegment word = .ok (make true) := by
      rw [readSegment_eq_ok_iff, trimmed]
      exact .inr ⟨bare, found⟩
    exact .cons ⟨trimmed, inked, whole, read⟩ .nil

/-- A text is written behind its key. -/
theorem shows_writeText {key : Text} {given : Option Text} (make : Text → Setting)
    (trimmed : (key ++ "=").trim = key ++ "=") (whole : .char ';' ∉ key) (bare : .char '=' ∉ key)
    (found : valueKeys.lookup (word key) = some make)
    (written : ∀ value, given = some value → value.trim = value ∧ .char ';' ∉ value) :
    List.Forall₂ Shows (writeText key given) (given.map make).toList := by
  cases given with
  | none => exact .nil
  | some value =>
    obtain ⟨valueTrimmed, valueWhole⟩ := written value rfl
    have segmentTrimmed : (key ++ "=" ++ value).trim = key ++ "=" ++ value :=
      Text.trim_append trimmed valueTrimmed
    have parts : key ++ "=" ++ value = key ++ .char '=' :: value := List.append_cons .. |>.symm
    have equals : .char '=' ∈ key ++ "=" ++ value := by
      rw [parts]
      exact List.mem_append_right _ List.mem_cons_self
    have inked : (key ++ "=" ++ value).isBlank = false := by
      rw [← Bool.not_eq_true, ← Text.trim_eq_nil_iff, segmentTrimmed]
      exact List.ne_nil_of_mem equals
    have free : .char ';' ∉ key ++ "=" ++ value := by
      simp only [List.mem_append, not_or]
      exact ⟨⟨whole, by decide⟩, valueWhole⟩
    have read : readSegment (key ++ "=" ++ value) = .ok (make value) := by
      rw [readSegment_eq_ok_iff, segmentTrimmed, parts]
      exact .inl ⟨key, value, make, rfl, bare, found, by rw [valueTrimmed]⟩
    exact .cons ⟨segmentTrimmed, inked, free, read⟩ .nil

/-- An attribute is written as its settings. -/
theorem shows_writeSegment {changes : Changes} (record : IsRecord changes) (attr : Attribute) :
    List.Forall₂ Shows (writeSegment changes attr) (segmentSettings changes attr) := by
  cases attr with
  | name | type | isArray | isOptional => exact .nil
  | isId =>
    exact shows_writeFlag (Setting.mk .isId) (by decide) (by decide) (by decide) (by decide) rfl
      (record.writable .isId)
  | isUnique =>
    exact shows_writeFlag (Setting.mk .isUnique) (by decide) (by decide) (by decide)
      (by decide) rfl (record.writable .isUnique)
  | isUpdatedAt =>
    exact shows_writeFlag (Setting.mk .isUpdatedAt) (by decide) (by decide) (by decide)
      (by decide) rfl (record.writable .isUpdatedAt)
  | defaultValue =>
    exact shows_writeText (Setting.mk .defaultValue) (by decide) (by decide) (by decide)
      rfl (record.writable .defaultValue)
  | mapName =>
    exact shows_writeText (Setting.mk .mapName) (by decide) (by decide) (by decide)
      rfl (record.writable .mapName)
  | relationFields =>
    exact shows_writeText (Setting.mk .relationFields) (by decide) (by decide) (by decide)
      rfl (record.writable .relationFields)
  | relationReferences =>
    exact shows_writeText (Setting.mk .relationReferences) (by decide) (by decide)
      (by decide) rfl (record.writable .relationReferences)

/-- Attributes are written as their settings, in whatever order. -/
theorem shows_segments {changes : Changes} (record : IsRecord changes) (order : List Attribute) :
    List.Forall₂ Shows (order.flatMap (writeSegment changes))
      (order.flatMap (segmentSettings changes)) := by
  induction order with
  | nil => exact .nil
  | cons attr rest ih =>
    rw [List.flatMap_cons, List.flatMap_cons]
    exact List.rel_append (shows_writeSegment record attr) ih

/-! ## Writing and reading -/

/-- A type is found by its name in any letter case. -/
theorem ofWord?_name (type : ScalarType) : ScalarType.ofWord? (word type.name) = some type := by
  cases type <;> decide +kernel

/-- A type with its marks. -/
def writeType (type : ScalarType) (array optional : Bool) : Text :=
  Text.ofString type.name ++ marks array optional

/-- A type with its marks is trimmed and holds no semicolon. -/
theorem trim_writeType (type : ScalarType) (array optional : Bool) :
    (writeType type array optional).trim = writeType type array optional ∧
      .char ';' ∉ writeType type array optional := by
  have name : (Text.ofString type.name).trim = Text.ofString type.name ∧
      .char ';' ∉ Text.ofString type.name := by
    cases type <;> decide
  have marked : (marks array optional).trim = marks array optional ∧
      .char ';' ∉ marks array optional := by
    cases array <;> cases optional <;> decide
  refine ⟨Text.trim_append name.1 marked.1, ?_⟩
  rw [writeType, List.mem_append, not_or]
  exact ⟨name.2, marked.2⟩

/-- A type with its marks is read as it is written. -/
theorem readType_writeType (type : ScalarType) (array optional : Bool) :
    readType (writeType type array optional) = .ok (typeSettings type array optional) :=
  readType_eq_ok_iff.mpr ⟨Text.ofString type.name, array, optional, type,
    (trim_writeType type array optional).1, ofWord?_name type, rfl⟩

/-- The head of attributes that are given: the name, a colon and the type with its marks. -/
theorem writeHead_eq {changes : Changes} {name : Text} {type : ScalarType} {array optional : Bool}
    (named : changes.name = some name) (typed : changes.type = some type)
    (arrayGiven : changes.isArray = some array)
    (optionalGiven : changes.isOptional = some optional) :
    writeHead changes = name ++ .char ':' :: writeType type array optional := by
  rw [writeHead, named, typed, arrayGiven, optionalGiven, writeType, marks]
  simp only [Option.getD_some, Option.some.injEq, List.append_assoc]
  rfl

/-- A head is trimmed and holds no semicolon, and its settings are read from it. -/
theorem readHead_writeHead {name : Text} (writable : Writable .name name) (type : ScalarType)
    (array optional : Bool) {head : Text}
    (written : head = name ++ .char ':' :: writeType type array optional) :
    head.trim = head ∧ .char ';' ∉ head ∧ ∀ definition, readHead definition head =
      .ok (⟨.name, name⟩ :: typeSettings type array optional) := by
  obtain ⟨nameTrimmed, inked, free, whole⟩ := writable
  obtain ⟨typeTrimmed, typeWhole⟩ := trim_writeType type array optional
  have colon : Text.trim [.char ':'] = [.char ':'] := by decide
  refine ⟨?_, ?_, fun definition => ?_⟩
  · rw [written]
    exact Text.trim_append nameTrimmed (Text.trim_append colon typeTrimmed)
  · rw [written, List.mem_append, List.mem_cons, not_or, not_or]
    exact ⟨whole, by decide, typeWhole⟩
  · refine readHead_eq_ok_iff.mpr ⟨name, writeType type array optional, _, ⟨free, .inl written⟩,
      inked, readType_writeType type array optional, ?_⟩
    rw [nameTrimmed]

/-- The settings that a definition is written from give its attributes again. -/
theorem changesOf_written {changes : Changes} {name : Text} {type : ScalarType}
    {array optional : Bool} {order : List Attribute} (named : changes.name = some name)
    (typed : changes.type = some type) (arrayGiven : changes.isArray = some array)
    (optionalGiven : changes.isOptional = some optional)
    (listed : ∀ attr ∈ segmentAttributes, (changes.value? attr).isSome = true → attr ∈ order) :
    changesOf ((⟨.name, name⟩ :: typeSettings type array optional) ++
      order.flatMap (segmentSettings changes)) = changes := by
  have agreeHead : ∀ setting ∈ ⟨.name, name⟩ :: typeSettings type array optional,
      changes.value? setting.attr = some setting.value := by
    simp only [typeSettings, List.forall_mem_cons]
    exact ⟨named, typed, arrayGiven, optionalGiven, nofun⟩
  apply changesOf_eq
  · intro setting mem
    rcases List.mem_append.mp mem with inHead | inSegments
    · exact agreeHead setting inHead
    · obtain ⟨attr, -, mem⟩ := List.mem_flatMap.mp inSegments
      exact (mem_segmentSettings_iff.mp mem).2.2
  · intro attr given
    obtain ⟨value, found⟩ := Option.isSome_iff_exists.mp given
    by_cases segmented : attr ∈ segmentAttributes
    · have set : ⟨attr, value⟩ ∈ segmentSettings changes attr :=
        mem_segmentSettings_iff.mpr ⟨rfl, segmented, found⟩
      have written := List.mem_flatMap.mpr ⟨attr, listed attr segmented given, set⟩
      exact ⟨⟨attr, value⟩, List.mem_append_right _ written, rfl⟩
    · have headed := (mem_headAttributes_or attr).resolve_right segmented
      rw [← map_attr_head name type array optional] at headed
      obtain ⟨setting, mem, same⟩ := List.mem_map.mp headed
      exact ⟨setting, List.mem_append_left _ mem, same⟩

/-- Attributes are read back from their definition, in whatever order its segments stand. -/
theorem parse_printIn {changes : Changes} (record : IsRecord changes) {order : List Attribute}
    (listed : ∀ attr ∈ segmentAttributes, (changes.value? attr).isSome = true → attr ∈ order) :
    parse (printIn order changes) = .ok changes := by
  obtain ⟨name, named⟩ := Option.isSome_iff_exists.mp (record.headed .name (by decide))
  obtain ⟨type, typed⟩ := Option.isSome_iff_exists.mp (record.headed .type (by decide))
  obtain ⟨array, arrayGiven⟩ := Option.isSome_iff_exists.mp (record.headed .isArray (by decide))
  obtain ⟨optional, optionalGiven⟩ :=
    Option.isSome_iff_exists.mp (record.headed .isOptional (by decide))
  have head := writeHead_eq named typed arrayGiven optionalGiven
  obtain ⟨headTrimmed, headFree, headRead⟩ :=
    readHead_writeHead (record.writable .name name named) type array optional head
  have shown := shows_segments record order
  have segment_shown : ∀ segment ∈ order.flatMap (writeSegment changes),
      segment.trim = segment ∧ .char ';' ∉ segment := by
    intro segment mem
    obtain ⟨setting, segmentShown⟩ := exists_shows shown mem
    exact ⟨segmentShown.trimmed, segmentShown.whole⟩
  have printed : printIn order changes =
      writeHead changes ++ (order.flatMap (writeSegment changes)).flatMap (.char ';' :: ·) := by
    rw [printIn, Text.intercalate_cons]
    rfl
  have trimmed : (printIn order changes).trim = printIn order changes := by
    rw [printed]
    exact Text.trim_append headTrimmed
      (Text.trim_flatMap (by decide) fun segment mem => (segment_shown segment mem).1)
  refine parse_eq_ok_iff.mpr ⟨?_, writeHead changes, order.flatMap (writeSegment changes), _, _,
    ⟨trimmed.trans printed, ?_⟩, headRead _, readSegments_of_shows shown,
    (changesOf_written named typed arrayGiven optionalGiven listed).symm⟩
  · rw [trimmed, printed, head]
    simp
  · exact List.forall_mem_cons.mpr ⟨headFree, fun segment mem => (segment_shown segment mem).2⟩

/-! ## Reading and writing -/

/-- What a table gives for a key is one of its entries. -/
theorem mem_of_lookup {α : Type} {table : List (Text × α)} {key : Text} {value : α}
    (found : table.lookup key = some value) : (key, value) ∈ table := by
  obtain ⟨before, after, rfl, -⟩ := List.lookup_eq_some_iff.mp found
  exact List.mem_append_right _ List.mem_cons_self

/-- What a segment without a semicolon sets can be written. -/
theorem writable_of_readSegment {segment : Text} {setting : Setting}
    (read : readSegment segment = .ok setting) (whole : .char ';' ∉ segment) :
    Writable setting.attr setting.value := by
  rcases readSegment_eq_ok_iff.mp read with ⟨key, value, make, written, -, found, rfl⟩ | ⟨-, found⟩
  · have free : .char ';' ∉ value := by
      intro held
      have inTrimmed : .char ';' ∈ segment.trim := by
        rw [written]
        exact List.mem_append_right _ (List.mem_cons_of_mem _ held)
      exact whole (Text.mem_of_mem_trim inTrimmed)
    have text : value.trim.trim = value.trim ∧ .char ';' ∉ value.trim :=
      ⟨Text.trim_trim value, fun held => free (Text.mem_of_mem_trim held)⟩
    have every : ∀ entry ∈ valueKeys,
        Writable (entry.2 value.trim).attr (entry.2 value.trim).value := by
      simp only [valueKeys, List.forall_mem_cons]
      exact ⟨text, text, text, text, nofun⟩
    exact every _ (mem_of_lookup found)
  · have every : ∀ entry ∈ flagWords, Writable entry.2.attr entry.2.value := by
      simp only [flagWords, List.forall_mem_cons]
      exact ⟨rfl, rfl, rfl, nofun⟩
    exact every _ (mem_of_lookup found)

/-- What segments without semicolons set can be written. -/
theorem writable_of_readSegments {segments : List Text} {settings : List Setting}
    (read : readSegments segments = .ok settings)
    (whole : ∀ segment ∈ segments, .char ';' ∉ segment) :
    ∀ setting ∈ settings, Writable setting.attr setting.value := by
  induction segments generalizing settings with
  | nil =>
    cases read
    exact nofun
  | cons segment rest ih =>
    rw [List.forall_mem_cons] at whole
    by_cases blank : segment.isBlank = true
    · rw [readSegments_cons_of_blank blank] at read
      exact ih read whole.2
    · rw [Bool.not_eq_true] at blank
      obtain ⟨setting, later, first, others, rfl⟩ := (readSegments_cons_eq_ok_iff blank).mp read
      rw [List.forall_mem_cons]
      exact ⟨writable_of_readSegment first whole.1, ih others whole.2⟩

/-- What a head without a semicolon sets can be written, and it sets every attribute of a head. -/
theorem writable_of_readHead {definition head : Text} {settings : List Setting}
    (read : readHead definition head = .ok settings) (whole : .char ';' ∉ head) :
    (∀ attr ∈ headAttributes, ∃ setting ∈ settings, setting.attr = attr) ∧
      ∀ setting ∈ settings, Writable setting.attr setting.value := by
  obtain ⟨name, type, later, ⟨colonFree, parts⟩, inked, typeRead, rfl⟩ :=
    readHead_eq_ok_iff.mp read
  obtain ⟨-, array, optional, type, -, -, rfl⟩ := readType_eq_ok_iff.mp typeRead
  have free : .char ';' ∉ name := by
    rcases parts with rfl | ⟨rfl, -⟩
    · exact fun held => whole (List.mem_append_left _ held)
    · exact whole
  have trimmed_inked : name.trim.isBlank = false := by
    rw [← Bool.not_eq_true, ← Text.trim_eq_nil_iff, Text.trim_trim, Text.trim_eq_nil_iff, inked]
    exact Bool.false_ne_true
  have named : Writable .name name.trim :=
    ⟨Text.trim_trim name, trimmed_inked, fun held => colonFree (Text.mem_of_mem_trim held),
      fun held => free (Text.mem_of_mem_trim held)⟩
  refine ⟨fun attr mem => List.mem_map.mp (map_attr_head name.trim type array optional ▸ mem), ?_⟩
  simp only [typeSettings, List.forall_mem_cons]
  exact ⟨named, trivial, trivial, trivial, nofun⟩

/-- What is read from a definition can be written. -/
theorem isRecord_of_parse {text : Text} {changes : Changes} (read : parse text = .ok changes) :
    IsRecord changes := by
  obtain ⟨-, head, segments, headSettings, settings, ⟨-, free⟩, headRead, later, rfl⟩ :=
    parse_eq_ok_iff.mp read
  rw [List.forall_mem_cons] at free
  obtain ⟨headed, headWritable⟩ := writable_of_readHead headRead free.1
  have segmentsWritable := writable_of_readSegments later free.2
  constructor
  · intro attr mem
    obtain ⟨setting, set, rfl⟩ := headed attr mem
    exact isSome_value?_changesOf (List.mem_append_left _ set)
  · intro attr value given
    rcases List.mem_append.mp (mem_of_value?_changesOf given) with inHead | inSegments
    · exact headWritable _ inHead
    · exact segmentsWritable _ inSegments

/-- Definitions are read as they are written: attributes that a definition can give are read back
from it, in whatever order its segments stand, and what is read from any text can be written and is
read back. -/
theorem print_parse :
    (∀ changes, IsRecord changes → ∀ order : List Attribute,
      (∀ attr ∈ segmentAttributes, (changes.value? attr).isSome = true → attr ∈ order) →
        parse (printIn order changes) = .ok changes) ∧
      ∀ text changes, parse text = .ok changes →
        IsRecord changes ∧ parse (print changes) = .ok changes := by
  refine ⟨fun changes record order listed => parse_printIn record listed, ?_⟩
  intro text changes read
  have record := isRecord_of_parse read
  exact ⟨record, parse_printIn record fun attr mem _ => mem⟩

/-- Attributes whose values hold the marks of a definition. -/
def marked : Changes where
  name := some "a=b?"
  type := some .json
  isArray := some true
  isOptional := some false
  isUnique := some true
  defaultValue := some "x=y:z,w"
  mapName := some []

/-- Values that hold the marks of a definition are read back, and so are those of a definition with
blanks, an empty segment and words in capitals. -/
theorem print_parse_marked :
    IsRecord marked ∧
      parse (printIn [.mapName, .defaultValue, .isUnique] marked) = .ok marked ∧
        parse " a=b? : JSON[] ;; map = ;Default= x=y:z,w ;UNIQUE" = .ok marked ∧
          parse (print marked) = .ok marked := by
  have record : IsRecord marked := by
    refine ⟨by decide, fun attr value given => ?_⟩
    cases attr <;> cases given <;> decide
  have read : parse " a=b? : JSON[] ;; map = ;Default= x=y:z,w ;UNIQUE" = .ok marked := by rfl
  exact ⟨record, print_parse.1 marked record _ (by decide), read,
    (print_parse.2 _ _ read).2⟩

end SchemaDesk.Definition
