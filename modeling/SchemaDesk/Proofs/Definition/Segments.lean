import SchemaDesk.Proofs.Definition.RoundTrip
import SchemaDesk.Proofs.Text.Padded
/-!
# What segments set

What a segment sets is said apart from the reader (`Sets`): a key in any case of its ASCII
letters is set to the text behind the first equals sign, and a word that stands alone sets a flag.
The reader finds exactly this (`setting?_eq_some_iff`). Segments are read when each of them is blank
or sets something, and then their settings come in order (`toOption_readSegments`). Settings work
attribute by attribute: what an attribute is set to depends on its own settings only
(`changesOf_eq_of_filter`), and among these on the last one (`value?_changesOf_last`).
-/

namespace SchemaDesk.Definition

/-! ## Attribute by attribute -/

/-- What an attribute is set to depends on what it was before and on its own settings. -/
theorem value?_foldl_set_eq {attr : Attribute} (settings : List Setting) {start other : Changes}
    (same : start.value? attr = other.value? attr) :
    (settings.foldl (fun changes setting => changes.set setting.attr setting.value) start).value?
        attr =
      ((settings.filter (·.attr = attr)).foldl
        (fun changes setting => changes.set setting.attr setting.value) other).value? attr := by
  -- The settings are taken from the front, so what is set before them varies on both sides.
  induction settings generalizing start other with
  | nil => exact same
  | cons setting rest ih =>
    rw [List.foldl_cons]
    by_cases own : setting.attr = attr
    · rw [List.filter_cons_of_pos (by simpa using own), List.foldl_cons]
      refine ih ?_
      rw [value?_set, value?_set, dif_pos own, dif_pos own]
    · rw [List.filter_cons_of_neg (by simpa using own)]
      refine ih ?_
      rw [value?_set, dif_neg own, same]

/-- An attribute is set by its own settings. -/
theorem value?_changesOf_filter (settings : List Setting) (attr : Attribute) :
    (changesOf settings).value? attr =
      (changesOf (settings.filter (·.attr = attr))).value? attr :=
  value?_foldl_set_eq settings rfl

/-- Settings that are the same for every attribute, in the same order, give the same. -/
theorem changesOf_eq_of_filter {left right : List Setting}
    (same : ∀ attr : Attribute, left.filter (·.attr = attr) = right.filter (·.attr = attr)) :
    changesOf left = changesOf right := by
  have values : (changesOf left).value? = (changesOf right).value? := by
    funext attr
    rw [value?_changesOf_filter left, value?_changesOf_filter right, same attr]
  rw [← Changes.ofValues?_value? (changesOf left), values, Changes.ofValues?_value?]

/-- Of the settings for an attribute the last one counts. -/
theorem value?_changesOf_last {before after : List Setting} {setting : Setting}
    (last : ∀ later ∈ after, later.attr ≠ setting.attr) :
    (changesOf (before ++ setting :: after)).value? setting.attr = some setting.value := by
  have noneLater : after.filter (·.attr = setting.attr) = [] := by
    refine List.filter_eq_nil_iff.mpr fun later mem => ?_
    simpa using last later mem
  have own : (before ++ setting :: after).filter (·.attr = setting.attr) =
      before.filter (·.attr = setting.attr) ++ [setting] := by
    rw [List.filter_append, List.filter_cons_of_pos (by simp), noneLater]
  rw [value?_changesOf_filter, own, changesOf, List.foldl_append, List.foldl_cons, List.foldl_nil,
    value?_set, dif_pos rfl]

/-! ## The setting of a segment -/

/-- What a segment sets, apart from how it is read. -/
inductive Sets (segment : Text) : Setting → Prop where
  /-- A key is set to the text behind the first equals sign, without the blanks at its ends. -/
  | valued {key value : Text} {entry : Text × (Text → Setting)} (listed : entry ∈ valueKeys)
      (written : segment.trim = key ++ .char '=' :: value) (first : .char '=' ∉ key)
      (spelled : key.trim.SameUpToCase entry.1) : Sets segment (entry.2 value.trim)
  /-- A word that stands alone sets its flag. -/
  | bare {entry : Text × Setting} (listed : entry ∈ flagWords)
      (spelled : segment.trim.SameUpToCase entry.1) : Sets segment entry.2

/-- What a table of small words has for a text is the entry that the text spells. -/
theorem lookup_word_eq_some_iff {α : Type} {table : List (Text × α)}
    (small : ∀ key ∈ table.map Prod.fst, key.map Content.asciiLower = key)
    (own : ∀ key ∈ table.map Prod.fst, key.all CodePoint.isOwnLetter = true)
    (distinct : (table.map Prod.fst).Nodup) {text : Text} {value : α} :
    table.lookup (word text) = some value ↔
      ∃ entry ∈ table, text.trim.SameUpToCase entry.1 ∧ entry.2 = value := by
  have spells : ∀ key ∈ table.map Prod.fst, word text = key ↔ text.trim.SameUpToCase key := by
    intro key listed
    rw [word, Text.lower_eq_iff (own key listed), Text.SameUpToCase, small key listed]
  constructor
  · intro found
    have mem := mem_of_lookup found
    exact ⟨_, mem, (spells _ (List.mem_map_of_mem mem)).mp rfl, rfl⟩
  · rintro ⟨⟨key, value⟩, mem, spelled, rfl⟩
    obtain ⟨before, after, rfl⟩ := List.append_of_mem mem
    have same : word text = key := (spells key (List.mem_map_of_mem mem)).mpr spelled
    have earlier : key ∉ before.map Prod.fst := by
      rw [List.map_append, List.map_cons] at distinct
      exact fun held => (List.nodup_append.mp distinct).2.2 key held key List.mem_cons_self rfl
    refine List.lookup_eq_some_iff.mpr ⟨before, after, by rw [same], fun entry held => ?_⟩
    rw [same]
    refine bne_iff_ne.mpr fun here => earlier ?_
    rw [here]
    exact List.mem_map_of_mem held

/-- A key is looked up by its text without blanks around it, in any letter case. -/
theorem lookup_valueKeys_iff {text : Text} {make : Text → Setting} :
    valueKeys.lookup (word text) = some make ↔
      ∃ entry ∈ valueKeys, text.trim.SameUpToCase entry.1 ∧ entry.2 = make :=
  lookup_word_eq_some_iff (by decide) (by decide) (by decide)

/-- A flag is looked up by its word without blanks around it, in any letter case. -/
theorem lookup_flagWords_iff {text : Text} {setting : Setting} :
    flagWords.lookup (word text) = some setting ↔
      ∃ entry ∈ flagWords, text.trim.SameUpToCase entry.1 ∧ entry.2 = setting :=
  lookup_word_eq_some_iff (by decide) (by decide) (by decide)

/-- What is read from a segment is what it sets. -/
theorem readSegment_iff_sets {segment : Text} {setting : Setting} :
    readSegment segment = .ok setting ↔ Sets segment setting := by
  rw [readSegment_eq_ok_iff]
  constructor
  · rintro (⟨key, value, make, written, first, found, rfl⟩ | ⟨-, found⟩)
    · obtain ⟨entry, listed, spelled, rfl⟩ := lookup_valueKeys_iff.mp found
      exact .valued listed written first spelled
    · obtain ⟨entry, listed, spelled, rfl⟩ := lookup_flagWords_iff.mp found
      exact .bare listed spelled
  · intro sets
    cases sets with
    | @valued key value entry listed written first spelled =>
      have found := lookup_valueKeys_iff.mpr ⟨entry, listed, spelled, rfl⟩
      exact .inl ⟨key, value, entry.2, written, first, found, rfl⟩
    | @bare entry listed spelled =>
      have worded : Spells (flagWords.map Prod.fst) segment.trim :=
        ⟨entry.1, List.mem_map_of_mem listed, spelled⟩
      have free : .char '=' ∉ segment := notMem_of_spells worded (by decide) (by decide)
      refine .inr ⟨fun mem => free (Text.mem_of_mem_trim mem), ?_⟩
      exact lookup_flagWords_iff.mpr ⟨entry, listed, spelled, rfl⟩

/-- The setting of a segment, if it sets something. -/
def setting? (segment : Text) : Option Setting := (readSegment segment).toOption

/-- The attribute that a segment sets, if it sets one. -/
def attribute? (segment : Text) : Option Attribute := (setting? segment).map Setting.attr

/-- A segment gives exactly the setting that it sets. -/
theorem setting?_eq_some_iff {segment : Text} {setting : Setting} :
    setting? segment = some setting ↔ Sets segment setting := by
  rw [← readSegment_iff_sets, setting?]
  cases readSegment segment with
  | ok other => exact ⟨fun same => congrArg _ (Option.some.inj same),
      fun same => congrArg _ (Except.ok.inj same)⟩
  | error reason => exact iff_of_false nofun nofun

/-- A segment sets an attribute when it sets it to some value. -/
theorem attribute?_eq_some_iff {segment : Text} {attr : Attribute} :
    attribute? segment = some attr ↔ ∃ value, Sets segment ⟨attr, value⟩ := by
  rw [attribute?, Option.map_eq_some_iff]
  constructor
  · rintro ⟨⟨set, value⟩, found, rfl⟩
    exact ⟨value, setting?_eq_some_iff.mp found⟩
  · rintro ⟨value, sets⟩
    exact ⟨⟨attr, value⟩, setting?_eq_some_iff.mpr sets, rfl⟩

/-! ## Segments and blanks -/

/-- Blanks at the ends of a segment do not count. -/
theorem readSegment_trim (segment : Text) : readSegment segment.trim = readSegment segment := by
  rw [readSegment, readSegment, Text.trim_trim]

/-- A segment with an equals sign is read from the two sides of the first one. -/
theorem readSegment_cut {key : Text} (first : .char '=' ∉ key) (value : Text) :
    readSegment (key ++ .char '=' :: value) =
      match valueKeys.lookup (word key) with
      | some make => .ok (make value.trim)
      | none => .error (.unknownAttribute key.trim) := by
  have trimmed : (key ++ .char '=' :: value).trim =
      key.trimStart ++ .char '=' :: value.trimEnd := Text.trim_cut (by decide) key value
  have free : .char '=' ∉ key.trimStart := fun mem =>
    first ((List.dropWhile_sublist CodePoint.isBlank).mem mem)
  have cut : (key ++ .char '=' :: value).trim.cutFirst '=' =
      some (key.trimStart, value.trimEnd) := Text.cutFirst_eq_some_iff.mpr ⟨free, trimmed⟩
  have same : word key.trimStart = word key := by rw [word, Text.trim_trimStart, word]
  cases found : valueKeys.lookup (word key) with
  | some make => simp only [readSegment, cut, same, found, Text.trim_trimEnd]
  | none => simp only [readSegment, cut, same, found, Text.trim_trimStart]

/-- A blank segment sets nothing. -/
theorem setting?_of_isBlank {segment : Text} (blank : segment.isBlank = true) :
    setting? segment = none := by
  have empty : setting? [] = none := by decide
  rw [setting?, ← readSegment_trim, Text.trim_eq_nil_iff.mpr blank]
  exact empty

/-- Whether a segment can be read: it is blank or sets something. -/
def isReadable (segment : Text) : Bool := segment.isBlank || (setting? segment).isSome

/-- A segment that is not blank is read before the others, and its setting comes first. -/
theorem toOption_readSegments_cons {segment : Text} (inked : segment.isBlank = false)
    (rest : List Text) :
    (readSegments (segment :: rest)).toOption =
      (setting? segment).bind fun setting => (readSegments rest).toOption.map (setting :: ·) := by
  rw [readSegments, inked, if_neg Bool.false_ne_true, setting?]
  cases readSegment segment with
  | error reason => rfl
  | ok setting =>
    cases readSegments rest with
    | error reason => rfl
    | ok settings => rfl

/-- Blanks at the ends of segments do not count. -/
theorem setting?_trim (segment : Text) : setting? segment.trim = setting? segment := by
  rw [setting?, readSegment_trim, setting?]

/-- Blanks around a segment do not decide whether it is read. -/
theorem isReadable_trim (segment : Text) : isReadable segment.trim = isReadable segment := by
  have blank : segment.trim.isBlank = segment.isBlank :=
    Text.isBlank_eq_of_trim (Text.trim_trim segment)
  rw [isReadable, blank, setting?_trim, isReadable]

/-- Blanks around segments do not change what they give. -/
theorem readSegments_map_trim (segments : List Text) :
    readSegments (segments.map Text.trim) = readSegments segments := by
  induction segments with
  | nil => rfl
  | cons segment rest ih =>
    have blank : segment.trim.isBlank = segment.isBlank :=
      Text.isBlank_eq_of_trim (Text.trim_trim segment)
    rw [List.map_cons, readSegments, readSegments, blank, readSegment_trim, ih]

/-- Segments are read when each of them can be, and give their settings in order. -/
theorem toOption_readSegments (segments : List Text) :
    (readSegments segments).toOption =
      if segments.all isReadable then some (segments.filterMap setting?) else none := by
  induction segments with
  | nil => rfl
  | cons segment rest ih =>
    rw [List.all_cons, isReadable]
    cases blank : segment.isBlank with
    | true =>
      rw [readSegments_cons_of_blank blank, ih, Bool.true_or, Bool.true_and,
        List.filterMap_cons_none (setting?_of_isBlank blank)]
    | false =>
      rw [toOption_readSegments_cons blank, ih, Bool.false_or]
      cases set : setting? segment with
      | none => rfl
      | some setting =>
        rw [Option.bind_some, Option.isSome_some, Bool.true_and, List.filterMap_cons_some set]
        split
        next => rfl
        next => rfl

end SchemaDesk.Definition
