import Mathlib.Logic.Relation
import Mathlib.Tactic.Convert
import SchemaDesk.Proofs.Definition.Segments
/-!
# Definitions that are laid out anew

A definition may be laid out in many ways: with blanks around it and around its separators, with
blank segments, and with its segments in another order, as long as those for one attribute keep
theirs (`Rearranged`). The reading of a definition depends on its trimmed pieces only
(`toOption_parse`), and on the settings of its segments for each attribute only
(`SetsAlike`). So definitions of which one becomes the other by such changes give the same
attributes or are all refused, and of several segments for one attribute the last one counts
(`alike_agree`).
-/

namespace SchemaDesk.Definition

/-! ## The changes -/

/-- A definition and the same definition with one change of its layout. -/
inductive Rearranged : Text → Text → Prop where
  /-- Blanks before the definition. -/
  | before (text : Text) {blanks : Text} (blank : blanks.isBlank = true) :
      Rearranged text (blanks ++ text)
  /-- Blanks after the definition. -/
  | after (text : Text) {blanks : Text} (blank : blanks.isBlank = true) :
      Rearranged text (text ++ blanks)
  /-- Blanks around a semicolon. -/
  | semicolon (start rest : Text) {left right : Text} (blankLeft : left.isBlank = true)
      (blankRight : right.isBlank = true) :
      Rearranged (start ++ .char ';' :: rest) (start ++ (left ++ .char ';' :: (right ++ rest)))
  /-- Blanks around the first colon of the head. -/
  | colon {name : Text} (rest : Text) (first : .char ':' ∉ name) (inHead : .char ';' ∉ name)
      {left right : Text} (blankLeft : left.isBlank = true) (blankRight : right.isBlank = true) :
      Rearranged (name ++ .char ':' :: rest) (name ++ (left ++ .char ':' :: (right ++ rest)))
  /-- Blanks around the first equals sign of a segment. -/
  | equals (start : Text) {key : Text} (rest : Text) (first : .char '=' ∉ key)
      (inSegment : .char ';' ∉ key) {left right : Text} (blankLeft : left.isBlank = true)
      (blankRight : right.isBlank = true) :
      Rearranged (start ++ .char ';' :: (key ++ .char '=' :: rest))
        (start ++ .char ';' :: (key ++ (left ++ .char '=' :: (right ++ rest))))
  /-- A blank segment more, anywhere behind the head. -/
  | blankSegment (head : Text) (earlier later : List Text) {segment : Text}
      (blank : segment.isBlank = true) :
      Rearranged (head ++ (earlier ++ later).flatMap (.char ';' :: ·))
        (head ++ (earlier ++ segment :: later).flatMap (.char ';' :: ·))
  /-- The segments in another order, in which those for one attribute stand as before. -/
  | order (head : Text) {segments reordered : List Text}
      (whole : ∀ segment ∈ segments, .char ';' ∉ segment) (same : segments.Perm reordered)
      (kept : ∀ attr : Attribute, segments.filter (attribute? · = some attr) =
        reordered.filter (attribute? · = some attr)) :
      Rearranged (head ++ segments.flatMap (.char ';' :: ·))
        (head ++ reordered.flatMap (.char ';' :: ·))

/-- Two definitions of which one becomes the other by changes of the layout, each made or taken
back. -/
def Alike : Text → Text → Prop := Relation.EqvGen Rearranged

/-! ## Heads and blanks -/

/-- Blanks at the ends of a type do not count. -/
theorem readType_eq_of_trim {left right : Text} (same : left.trim = right.trim) :
    readType left = readType right := by
  rw [readType, readType, same]

/-- What is read from a name and a type. -/
def readParts (definition name type : Text) : Except DefinitionError (List Setting) :=
  if name.trim = [] then .error (.missingName definition)
  else (readType type).map (⟨.name, name.trim⟩ :: ·)

/-- Blanks around the name and around the type do not matter. -/
theorem readParts_eq_of_trim {name other type another : Text} (names : name.trim = other.trim)
    (types : type.trim = another.trim) (definition : Text) :
    readParts definition name type = readParts definition other another := by
  rw [readParts, readParts, names, readType_eq_of_trim types]

/-- A head is read from the two sides of its first colon. -/
theorem readHead_cut {name : Text} (first : .char ':' ∉ name) (definition type : Text) :
    readHead definition (name ++ .char ':' :: type) = readParts definition name type := by
  have cut : (name ++ .char ':' :: type).cutFirst ':' = some (name, type) :=
    Text.cutFirst_eq_some_iff.mpr ⟨first, rfl⟩
  rw [readHead, cut]
  rfl

/-- A head without a colon is a name. -/
theorem readHead_of_notMem {head : Text} (free : .char ':' ∉ head) (definition : Text) :
    readHead definition head = readParts definition head "String" := by
  rw [readHead, Text.cutFirst_eq_none_iff.mpr free]
  rfl

/-- Blanks at the ends of a head do not count. -/
theorem readHead_trim (definition head : Text) :
    readHead definition head.trim = readHead definition head := by
  cases cut : head.cutFirst ':' with
  | none =>
    have free : .char ':' ∉ head := Text.cutFirst_eq_none_iff.mp cut
    have trimmedFree : .char ':' ∉ head.trim := fun mem => free (Text.mem_of_mem_trim mem)
    rw [readHead_of_notMem trimmedFree, readHead_of_notMem free]
    exact readParts_eq_of_trim (Text.trim_trim head) rfl definition
  | some parts =>
    obtain ⟨name, type⟩ := parts
    obtain ⟨free, rfl⟩ := Text.cutFirst_eq_some_iff.mp cut
    have startFree : .char ':' ∉ name.trimStart := fun mem =>
      free ((List.dropWhile_sublist CodePoint.isBlank).mem mem)
    rw [Text.trim_cut (by decide), readHead_cut startFree, readHead_cut free]
    exact readParts_eq_of_trim (Text.trim_trimStart name) (Text.trim_trimEnd type) definition

/-- Blanks around the first colon of a head do not count. -/
theorem readHead_padded {name left right : Text} (first : .char ':' ∉ name)
    (blankLeft : left.isBlank = true) (blankRight : right.isBlank = true)
    (definition type : Text) :
    readHead definition (name ++ left ++ .char ':' :: (right ++ type)) =
      readHead definition (name ++ .char ':' :: type) := by
  have paddedFirst : .char ':' ∉ name ++ left :=
    Text.notMem_append_blank (by decide) first blankLeft
  rw [readHead_cut paddedFirst, readHead_cut first]
  exact readParts_eq_of_trim (Text.trim_append_right blankLeft name)
    (Text.trim_append_left blankRight type) definition

/-- Whether a head is read does not depend on the definition it is said to be of. -/
theorem toOption_readHead (definition other head : Text) :
    (readHead definition head).toOption = (readHead other head).toOption := by
  simp only [readHead]
  split
  next => rfl
  next => rfl

/-! ## Reading trimmed pieces -/

/-- The attributes that trimmed pieces give, if they can be read. -/
def readPieces : List Text → Option Changes
  | [] => none
  | head :: segments =>
    (readHead [] head).toOption.bind fun headSettings =>
      (readSegments segments).toOption.map fun settings => changesOf (headSettings ++ settings)

/-- The attributes that a definition gives are those that its trimmed pieces give. -/
theorem toOption_parse (text : Text) :
    (parse text).toOption = readPieces (text.trimmedPieces ';') := by
  have pieces : text.trimmedPieces ';' = (text.trim.pieces ';').1.trim ::
      (text.trim.pieces ';').2.map Text.trim := by
    rw [← Text.trimmedPieces_trim (by decide)]
    rfl
  have head : (readHead [] (text.trim.pieces ';').1.trim).toOption =
      (readHead text.trim (text.trim.pieces ';').1).toOption := by
    rw [readHead_trim]
    exact toOption_readHead _ _ _
  rw [pieces, readPieces, head, readSegments_map_trim, parse]
  by_cases empty : text.trim = []
  · rw [if_pos empty, empty]
    rfl
  · rw [if_neg empty]
    dsimp only
    cases readHead text.trim (text.trim.pieces ';').1 with
    | error reason => rfl
    | ok headSettings =>
      cases readSegments (text.trim.pieces ';').2 with
      | error reason => rfl
      | ok settings => rfl

/-! ## Segments that set the same -/

/-- Segments of two lists can all be read or not, and set the same for every attribute, in the same
order. -/
structure SetsAlike (left right : List Text) : Prop where
  /-- All of them can be read, or some cannot in both. -/
  readable : left.all isReadable = right.all isReadable
  /-- Every attribute has the same settings in the same order. -/
  settings : ∀ attr : Attribute, (left.filterMap setting?).filter (·.attr = attr) =
    (right.filterMap setting?).filter (·.attr = attr)

/-- Segments stand among others. -/
theorem SetsAlike.among {left right : List Text} (alike : SetsAlike left right)
    (earlier later : List Text) :
    SetsAlike (earlier ++ (left ++ later)) (earlier ++ (right ++ later)) := by
  constructor
  · simp only [List.all_append, alike.readable]
  · intro attr
    simp only [List.filterMap_append, List.filter_append, alike.settings attr]

/-- Segments set the same without the blanks at their ends. -/
theorem SetsAlike.trimmed {left right : List Text} (alike : SetsAlike left right) :
    SetsAlike (left.map Text.trim) (right.map Text.trim) := by
  have readable : isReadable ∘ Text.trim = isReadable := funext isReadable_trim
  have set : setting? ∘ Text.trim = setting? := funext setting?_trim
  constructor
  · rw [List.all_map, List.all_map, readable, alike.readable]
  · intro attr
    rw [List.filterMap_map, List.filterMap_map, set, alike.settings attr]

/-- Pieces with segments that set the same give the same. -/
theorem readPieces_eq_of_setsAlike {left right : List Text} (alike : SetsAlike left right)
    (head : Text) : readPieces (head :: left) = readPieces (head :: right) := by
  have changes : ∀ headSettings : List Setting,
      changesOf (headSettings ++ left.filterMap setting?) =
        changesOf (headSettings ++ right.filterMap setting?) := by
    intro headSettings
    refine changesOf_eq_of_filter fun attr => ?_
    rw [List.filter_append, List.filter_append, alike.settings attr]
  rw [readPieces, readPieces, toOption_readSegments, toOption_readSegments, alike.readable]
  split
  next => simp only [Option.map_some, changes]
  next => rfl

/-- The pieces of a text are followed by segments that set the same. -/
theorem readPieces_append {left right : List Text} (alike : SetsAlike left right) (start : Text) :
    readPieces (start.trimmedPieces ';' ++ left) =
      readPieces (start.trimmedPieces ';' ++ right) := by
  have pieces : start.trimmedPieces ';' =
      (start.pieces ';').1.trim :: (start.pieces ';').2.map Text.trim := rfl
  have among := alike.among ((start.pieces ';').2.map Text.trim) []
  rw [List.append_nil, List.append_nil] at among
  rw [pieces, List.cons_append, List.cons_append]
  exact readPieces_eq_of_setsAlike among _

/-- A blank segment sets nothing. -/
theorem setsAlike_of_isBlank {segment : Text} (blank : segment.isBlank = true) :
    SetsAlike [] [segment] := by
  have readable : isReadable segment = true := by rw [isReadable, blank, Bool.true_or]
  constructor
  · rw [List.all_cons, readable]
    rfl
  · intro attr
    rw [List.filterMap_cons_none (setting?_of_isBlank blank)]

/-- Blanks around the first equals sign of a segment do not count. -/
theorem setsAlike_padded {key left right : Text} (first : .char '=' ∉ key)
    (blankLeft : left.isBlank = true) (blankRight : right.isBlank = true) (value : Text) :
    SetsAlike [(key ++ .char '=' :: value).trim]
      [(key ++ left ++ .char '=' :: (right ++ value)).trim] := by
  have paddedFirst : .char '=' ∉ key ++ left :=
    Text.notMem_append_blank (by decide) first blankLeft
  have keys : (key ++ left).trim = key.trim := Text.trim_append_right blankLeft key
  have values : (right ++ value).trim = value.trim := Text.trim_append_left blankRight value
  have words : word (key ++ left) = word key := by rw [word, word, keys]
  have set : setting? (key ++ left ++ .char '=' :: (right ++ value)).trim =
      setting? (key ++ .char '=' :: value).trim := by
    rw [setting?_trim, setting?_trim, setting?, setting?, readSegment_cut first,
      readSegment_cut paddedFirst, words, keys, values]
  have inked : ∀ before after : Text, (before ++ .char '=' :: after).trim.isBlank = false := by
    intro before after
    have mark : .char '=' ∈ (before ++ .char '=' :: after).trim :=
      (Text.mem_trim_iff (by decide)).mpr (List.mem_append_right _ List.mem_cons_self)
    rw [← Bool.not_eq_true]
    exact fun blank => Text.notMem_of_isBlank (by decide) blank mark
  constructor
  · simp only [List.all_cons, isReadable, inked, set]
  · intro attr
    simp only [List.filterMap_cons, set]

/-- The settings for an attribute are those of its segments. -/
theorem filter_filterMap_setting? (segments : List Text) (attr : Attribute) :
    (segments.filterMap setting?).filter (·.attr = attr) =
      (segments.filter (attribute? · = some attr)).filterMap setting? := by
  induction segments with
  | nil => rfl
  | cons segment rest ih =>
    cases set : setting? segment with
    | none =>
      have other : attribute? segment ≠ some attr := by
        rw [attribute?, set]
        exact (Option.some_ne_none attr).symm
      rw [List.filterMap_cons_none set, List.filter_cons_of_neg (by simpa using other), ih]
    | some setting =>
      have sets : attribute? segment = some setting.attr := by
        rw [attribute?, set]
        rfl
      rw [List.filterMap_cons_some set]
      by_cases own : setting.attr = attr
      · rw [List.filter_cons_of_pos (by simpa using own), ih,
          List.filter_cons_of_pos (by simpa [sets] using own), List.filterMap_cons_some set]
      · rw [List.filter_cons_of_neg (by simpa using own), ih,
          List.filter_cons_of_neg (by simpa [sets] using own)]

/-- Segments in another order set the same when those for one attribute stand as before. -/
theorem setsAlike_of_perm {segments reordered : List Text} (same : segments.Perm reordered)
    (kept : ∀ attr : Attribute, segments.filter (attribute? · = some attr) =
      reordered.filter (attribute? · = some attr)) : SetsAlike segments reordered := by
  constructor
  · exact same.all_eq
  · intro attr
    rw [filter_filterMap_setting?, filter_filterMap_setting?, kept attr]

/-! ## Definitions that are alike -/

/-- A change of the layout changes nothing about what is read. -/
theorem toOption_parse_of_rearranged {left right : Text} (rearranged : Rearranged left right) :
    (parse left).toOption = (parse right).toOption := by
  have inked : (CodePoint.char ';').isBlank = false := by decide
  rw [toOption_parse, toOption_parse]
  cases rearranged with
  | before _ blank => rw [Text.trimmedPieces_append_left inked blank]
  | after _ blank => rw [Text.trimmedPieces_append_right inked blank]
  | semicolon start rest blankLeft blankRight =>
    rw [Text.trimmedPieces_around inked blankLeft blankRight]
  | @colon name rest first inHead left right blankLeft blankRight =>
    have head : readHead [] (name ++ .char ':' :: (rest.pieces ';').1).trim =
        readHead [] (name ++ left ++ .char ':' :: (right ++ (rest.pieces ';').1)).trim := by
      rw [readHead_trim, readHead_trim, readHead_padded first blankLeft blankRight]
    rw [Text.trimmedPieces_cut (by decide) inHead,
      Text.trimmedPieces_cut_padded inked (by decide) inHead blankLeft blankRight, readPieces,
      readPieces, head]
  | @equals start key rest first inSegment left right blankLeft blankRight =>
    have among := (setsAlike_padded first blankLeft blankRight (rest.pieces ';').1).among []
      ((rest.pieces ';').2.map Text.trim)
    rw [Text.trimmedPieces_append_cons, Text.trimmedPieces_append_cons,
      Text.trimmedPieces_cut (by decide) inSegment,
      Text.trimmedPieces_cut_padded inked (by decide) inSegment blankLeft blankRight]
    exact readPieces_append among start
  | @blankSegment head earlier later segment blank =>
    have piece : segment.trimmedPieces ';' = [segment.trim] :=
      Text.trimmedPieces_of_notMem (Text.notMem_of_isBlank inked blank)
    have trimmed : segment.trim.isBlank = true := by
      rw [Text.isBlank_eq_of_trim (Text.trim_trim segment), blank]
    have among := (setsAlike_of_isBlank trimmed).among
      (earlier.flatMap (Text.trimmedPieces ';')) (later.flatMap (Text.trimmedPieces ';'))
    rw [Text.trimmedPieces_flatMap, Text.trimmedPieces_flatMap, List.flatMap_append,
      List.flatMap_append, List.flatMap_cons, piece]
    exact readPieces_append among head
  | @order head segments reordered whole same kept =>
    have reorderedWhole : ∀ segment ∈ reordered, .char ';' ∉ segment := fun segment mem =>
      whole segment (same.mem_iff.mpr mem)
    rw [Text.trimmedPieces_flatMap, Text.trimmedPieces_flatMap,
      Text.flatMap_trimmedPieces_of_notMem whole,
      Text.flatMap_trimmedPieces_of_notMem reorderedWhole]
    exact readPieces_append (setsAlike_of_perm same kept).trimmed head

/-- Definitions that are alike give the same attributes, or are all refused. -/
theorem toOption_parse_of_alike {left right : Text} (alike : Alike left right) :
    (parse left).toOption = (parse right).toOption := by
  induction alike with
  | rel left right rearranged => exact toOption_parse_of_rearranged rearranged
  | refl text => rfl
  | symm left right _ same => exact same.symm
  | trans first second third _ _ early late => exact early.trans late

/-- Of the segments for an attribute the last one counts. -/
theorem value?_of_last {text head : Text} {before after : List Text} {segment : Text}
    {setting : Setting} {changes : Changes} (read : parse text = .ok changes)
    (pieces : text.pieces ';' = (head, before ++ segment :: after))
    (sets : Sets segment setting)
    (last : ∀ later ∈ after, attribute? later ≠ some setting.attr) :
    changes.value? setting.attr = some setting.value := by
  have trimmed : text.trimmedPieces ';' =
      head.trim :: (before ++ segment :: after).map Text.trim := by
    rw [Text.trimmedPieces, Text.cutAll, pieces]
    rfl
  have given := toOption_parse text
  rw [read, trimmed, readPieces, readSegments_map_trim, toOption_readSegments] at given
  obtain ⟨headSettings, -, rest⟩ := Option.bind_eq_some_iff.mp given.symm
  obtain ⟨settings, found, made⟩ := Option.map_eq_some_iff.mp rest
  obtain ⟨-, same⟩ := Option.ite_none_right_eq_some.mp found
  have parted : headSettings ++ settings = (headSettings ++ before.filterMap setting?) ++
      setting :: after.filterMap setting? := by
    rw [← Option.some.inj same, List.filterMap_append,
      List.filterMap_cons_some (setting?_eq_some_iff.mpr sets), List.append_assoc]
  have others : ∀ later ∈ after.filterMap setting?, later.attr ≠ setting.attr := by
    intro later mem own
    obtain ⟨other, held, set⟩ := List.mem_filterMap.mp mem
    refine last other held ?_
    rw [attribute?, set, Option.map_some, own]
  rw [← made, parted]
  exact value?_changesOf_last others

/-- The layout of definitions does not matter, except for attributes that are set again. Definitions
of which one becomes the other by blanks at the ends, around the semicolons, around the first colon
of the head and around the first equals sign of a segment, by blank segments behind the head, and by
another order of the segments in which those for one attribute stand as before, are both refused or
give the same attributes. Of several segments for an attribute the last one counts. Which attribute
a segment is for is told by the key before its first equals sign, or by the word that it is. -/
theorem alike_agree :
    (∀ left right : Text, Alike left right → (parse left).toOption = (parse right).toOption) ∧
    (∀ (text head : Text) (before after : List Text) (segment : Text) (setting : Setting)
      (changes : Changes), parse text = .ok changes →
      text.pieces ';' = (head, before ++ segment :: after) → Sets segment setting →
      (∀ later ∈ after, attribute? later ≠ some setting.attr) →
      changes.value? setting.attr = some setting.value) ∧
    ∀ (segment : Text) (attr : Attribute),
      attribute? segment = some attr ↔ ∃ value, Sets segment ⟨attr, value⟩ := by
  refine ⟨fun left right alike => toOption_parse_of_alike alike, ?_, ?_⟩
  · intro text head before after segment setting changes read pieces sets last
    exact value?_of_last read pieces sets last
  · intro segment attr
    exact attribute?_eq_some_iff

/-- A definition that sets its default twice. -/
def twiceSet : Text := "size:Int;unique;default=1;default=2"

/-- The same definition with blanks, a blank segment, and its flag behind the defaults. -/
def twiceSetAnew : Text := "\u3000size:Int;default=1; ;default = 2;unique"

/-- What both of them give. -/
def twiceSetChanges : Changes where
  name := some "size"
  type := some .int
  isArray := some false
  isOptional := some false
  isUnique := some true
  defaultValue := some "2"

/-- Both definitions are alike, and the second default counts. -/
theorem alike_agree_twiceSet :
    Alike twiceSet twiceSetAnew ∧ (parse twiceSet).toOption = (parse twiceSetAnew).toOption ∧
      parse twiceSetAnew = .ok twiceSetChanges ∧
      twiceSetAnew.pieces ';' = (Text.ofString "\u3000size:Int",
        [Text.ofString "default=1", Text.ofString " "] ++
          Text.ofString "default = 2" :: [Text.ofString "unique"]) ∧
      Sets "default = 2" ⟨.defaultValue, "2"⟩ ∧
      (∀ later ∈ [Text.ofString "unique"], attribute? later ≠ some .defaultValue) ∧
      twiceSetChanges.value? .defaultValue = some (Text.ofString "2") := by
  have unique : attribute? "unique" = some .isUnique := by decide
  have first : attribute? "default=1" = some .defaultValue := by decide
  have second : attribute? "default=2" = some .defaultValue := by decide
  have kept : ∀ attr : Attribute,
      (["unique", "default=1", "default=2"] : List Text).filter (attribute? · = some attr) =
        (["default=1", "default=2", "unique"] : List Text).filter
          (attribute? · = some attr) := by
    intro attr
    cases attr <;> simp [unique, first, second]
  have order : Rearranged twiceSet "size:Int;default=1;default=2;unique" := by
    convert @Rearranged.order "size:Int" ["unique", "default=1", "default=2"]
      ["default=1", "default=2", "unique"] (by decide) (by decide) kept using 1 <;>
      decide +kernel
  have part : Rearranged "size:Int;default=1;default=2;unique"
      "size:Int;default=1; ;default=2;unique" := by
    convert @Rearranged.blankSegment "size:Int" ["default=1"] ["default=2", "unique"] " "
      (by decide) using 1 <;> decide +kernel
  have space : Rearranged "size:Int;default=1; ;default=2;unique"
      "size:Int;default=1; ;default = 2;unique" := by
    convert @Rearranged.equals "size:Int;default=1; " "default" "2;unique" (by decide)
      (by decide) " " " " (by decide) (by decide) using 1 <;> decide +kernel
  have front : Rearranged "size:Int;default=1; ;default = 2;unique" twiceSetAnew := by
    convert @Rearranged.before "size:Int;default=1; ;default = 2;unique" "\u3000"
      (by decide) using 1
    decide +kernel
  have alike : Alike twiceSet twiceSetAnew :=
    .trans _ _ _ (.rel _ _ order) (.trans _ _ _ (.rel _ _ part)
      (.trans _ _ _ (.rel _ _ space) (.rel _ _ front)))
  have read : parse twiceSetAnew = .ok twiceSetChanges := by decide +kernel
  have pieces : twiceSetAnew.pieces ';' = (Text.ofString "\u3000size:Int",
      [Text.ofString "default=1", Text.ofString " "] ++
        Text.ofString "default = 2" :: [Text.ofString "unique"]) := by decide +kernel
  have sets : Sets "default = 2" ⟨.defaultValue, "2"⟩ := setting?_eq_some_iff.mp (by rfl)
  have last : ∀ later ∈ [Text.ofString "unique"], attribute? later ≠ some .defaultValue := by
    simp [unique]
  exact ⟨alike, alike_agree.1 _ _ alike, read, pieces, sets, last,
    alike_agree.2.1 _ _ _ _ _ _ _ read pieces sets last⟩

end SchemaDesk.Definition
