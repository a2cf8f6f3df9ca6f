import SchemaDesk.Block
import SchemaDesk.Proofs.Text.Separated
/-!
# Blocks tell what they are written from

Texts are written into a block without escapes, so two models can have one block. They cannot when
their texts hold none of the marks that the format itself is made of. Then the line ends part the
lines, the first blanks of a line part its name and its type, the at signs part its tokens, and the
opening word of a token tells what it stands for. `render_inj` puts these together: the block of a
clean model tells its trimmed name and everything that the lines of its named fields show.
-/

namespace SchemaDesk

/-- A text without any of some characters. -/
def Text.Lacks (text : Text) (marks : List Char) : Prop :=
  ∀ mark ∈ marks, CodePoint.char mark ∉ text

/-- Marks are looked for in a text. -/
instance (text : Text) (marks : List Char) : Decidable (text.Lacks marks) :=
  decidable_of_iff (marks.all (fun mark => !text.contains (.char mark)) = true) (by
    simp [Text.Lacks])

namespace Text.Lacks

/-- A text put together from two lacks what both lack. -/
theorem append {left right : Text} {marks : List Char} (leftLacks : left.Lacks marks)
    (rightLacks : right.Lacks marks) : (left ++ right).Lacks marks := by
  intro mark mem held
  rcases List.mem_append.mp held with here | there
  · exact leftLacks mark mem here
  · exact rightLacks mark mem there

/-- A text that lacks some characters lacks fewer of them. -/
theorem of_subset {text : Text} {marks fewer : List Char} (lacks : text.Lacks marks)
    (subset : fewer ⊆ marks) : text.Lacks fewer := fun mark mem => lacks mark (subset mem)

end Text.Lacks

/-- A field whose texts hold no mark of the format. -/
structure Field.Clean (field : Field) : Prop where
  /-- The name is one word of one line. -/
  name : field.name.Lacks [' ', '\n']
  /-- The default value stands on one line and opens no token. -/
  defaultValue : field.defaultValue.Lacks ['@', '\n']
  /-- The name in the database stands on one line and opens no token. -/
  mapName : field.mapName.Lacks ['@', '\n']
  /-- The fields of a relation also hold no bracket. -/
  relationFields : field.relationFields.Lacks ['@', '\n', '[', ']']
  /-- Nor do the fields that it refers to. -/
  relationReferences : field.relationReferences.Lacks ['@', '\n', '[', ']']

/-- A model whose trimmed name stands on one line and whose named fields are clean. -/
structure Model.Clean (model : Model) : Prop where
  /-- The trimmed name stands on one line. -/
  name : model.name.trim.Lacks ['\n']
  /-- The named fields are clean. -/
  fields : ∀ field ∈ Block.namedFields model, field.Clean

/-- Whether a field is clean is decided part by part. -/
instance (field : Field) : Decidable field.Clean :=
  decidable_of_iff (field.name.Lacks [' ', '\n'] ∧ field.defaultValue.Lacks ['@', '\n'] ∧
    field.mapName.Lacks ['@', '\n'] ∧ field.relationFields.Lacks ['@', '\n', '[', ']'] ∧
    field.relationReferences.Lacks ['@', '\n', '[', ']'])
    ⟨fun ⟨name, value, map, fields, references⟩ => ⟨name, value, map, fields, references⟩,
      fun ⟨name, value, map, fields, references⟩ => ⟨name, value, map, fields, references⟩⟩

/-- Whether a model is clean is decided field by field. -/
instance (model : Model) : Decidable model.Clean :=
  decidable_of_iff (model.name.trim.Lacks ['\n'] ∧ ∀ field ∈ Block.namedFields model, field.Clean)
    ⟨fun ⟨name, fields⟩ => ⟨name, fields⟩, fun ⟨name, fields⟩ => ⟨name, fields⟩⟩

namespace Block

/-- What the line of a field shows. -/
structure Shown where
  /-- The name. -/
  name : Text
  /-- The scalar type. -/
  type : ScalarType
  /-- Whether the field holds a list. -/
  isArray : Bool
  /-- Whether the field may be left out. -/
  isOptional : Bool
  /-- Whether the field identifies a record. -/
  isId : Bool
  /-- Whether the values of the field are unique. -/
  isUnique : Bool
  /-- Whether the field holds the time of the last update. -/
  isUpdatedAt : Bool
  /-- The default value that is written; empty for none. -/
  defaultValue : Text
  /-- The name in the database; empty for none. -/
  mapName : Text
  /-- The tokens of the two comma lists of a relation that is written. -/
  relation : Option (List Text × List Text)
deriving DecidableEq, Repr

/-- The default value that is written for a field: none for an identifier that is no integer. -/
def shownDefault (field : Field) : Text :=
  if field.isId ∧ field.type ≠ .int then [] else field.defaultValue

/-- The relation that is written for a field: none unless both comma lists are given. -/
def shownRelation (field : Field) : Option (List Text × List Text) :=
  if field.relationFields = [] ∨ field.relationReferences = [] then none
  else some (Text.CommaList.tokens field.relationFields,
    Text.CommaList.tokens field.relationReferences)

/-- What the line of a field shows of it. -/
def shown (field : Field) : Shown where
  name := field.name
  type := field.type
  isArray := field.isArray
  isOptional := field.isOptional
  isId := field.isId
  isUnique := field.isUnique
  isUpdatedAt := field.isUpdatedAt
  defaultValue := shownDefault field
  mapName := field.mapName
  relation := shownRelation field

/-! ## The type of a field -/

/-- The name of a scalar type holds no mark. -/
theorem mark_notMem_typeName (type : ScalarType) :
    (Text.ofString type.name).Lacks [' ', '\n', '@', '[', '?'] := by
  cases type <;> decide

/-- Two scalar types with one name are the same. -/
theorem typeName_inj {left right : ScalarType}
    (same : Text.ofString left.name = Text.ofString right.name) : left = right := by
  have found := ScalarType.ofName?_name left
  rw [same, ScalarType.ofName?_name right] at found
  exact (Option.some.inj found).symm

/-- The written type of a field holds no blank, no line end and no at sign. -/
theorem mark_notMem_typeText (field : Field) : (typeText field).Lacks [' ', '\n', '@'] := by
  have named := mark_notMem_typeName field.type
  intro mark mem
  simp only [typeText, List.mem_append, not_or]
  simp only [List.mem_cons, List.not_mem_nil, or_false] at mem
  rcases mem with rfl | rfl | rfl
  all_goals
    refine ⟨⟨named _ (by decide), ?_⟩, ?_⟩
    · cases field.isArray <;> decide
    · cases field.isOptional <;> decide

/-- A question mark tells that a field may be left out. -/
theorem question_mem_typeText (field : Field) :
    CodePoint.char '?' ∈ typeText field ↔ field.isOptional = true := by
  have named := mark_notMem_typeName field.type '?' (by decide)
  simp only [typeText, List.mem_append, named, false_or]
  cases field.isArray <;> cases field.isOptional <;> decide

/-- A bracket tells that a field holds a list. -/
theorem bracket_mem_typeText (field : Field) :
    CodePoint.char '[' ∈ typeText field ↔ field.isArray = true := by
  have named := mark_notMem_typeName field.type '[' (by decide)
  simp only [typeText, List.mem_append, named, false_or]
  cases field.isArray <;> cases field.isOptional <;> decide

/-- The written type tells the scalar type and both marks. -/
theorem typeText_inj {left right : Field} (same : typeText left = typeText right) :
    left.type = right.type ∧ left.isArray = right.isArray ∧ left.isOptional = right.isOptional := by
  have array : left.isArray = right.isArray := by
    rw [Bool.eq_iff_iff, ← bracket_mem_typeText, ← bracket_mem_typeText, same]
  have optional : left.isOptional = right.isOptional := by
    rw [Bool.eq_iff_iff, ← question_mem_typeText, ← question_mem_typeText, same]
  rw [typeText, typeText, array, optional, List.append_cancel_right_eq,
    List.append_cancel_right_eq] at same
  exact ⟨typeName_inj same, array, optional⟩

/-! ## The tokens of a field

Every token opens with the word of the rule that writes it, and no word opens another one. So the
token of a rule can be picked out of all the tokens of a field. -/

/-- The rules that write the tokens of a field. -/
inductive Rule where
  /-- The field identifies a record. -/
  | id
  /-- The field has a default value. -/
  | default
  /-- The values of the field are unique. -/
  | unique
  /-- The field holds the time of the last update. -/
  | updatedAt
  /-- The field has a name in the database. -/
  | map
  /-- The field belongs to a relation. -/
  | relation
deriving DecidableEq

namespace Rule

/-- The rules in the order of their tokens. -/
def all : List Rule := [id, default, unique, updatedAt, map, relation]

/-- The word that the token of a rule opens with. -/
def word : Rule → Text
  | id => "@id"
  | default => "@default("
  | unique => "@unique"
  | updatedAt => "@updatedAt"
  | map => "@map("
  | relation => "@relation("

/-- What stands after the word in the token of a rule; none when the rule writes no token. -/
def rest? (field : Field) : Rule → Option Text
  | id => if field.isId then some [] else none
  | default =>
    if shownDefault field = [] then none
    else if field.isId = false ∧ field.type = .string then
      some ("\"" ++ shownDefault field ++ "\")")
    else some (shownDefault field ++ ")")
  | unique => if field.isUnique then some [] else none
  | updatedAt => if field.isUpdatedAt then some [] else none
  | map => if field.mapName = [] then none else some ("\"" ++ field.mapName ++ "\")")
  | relation => (shownRelation field).map fun lists =>
      "fields: [" ++ Text.CommaList.joined lists.1 ++ "], references: [" ++
        Text.CommaList.joined lists.2 ++ "])"

/-- The token of a rule. -/
def token? (field : Field) (rule : Rule) : Option Text := (rule.rest? field).map (rule.word ++ ·)

/-- The identifier rule and the default rule write the tokens of both. -/
theorem toList_id_default (field : Field) :
    (token? field id).toList ++ (token? field default).toList =
      idTokens field ++ defaultTokens field := by
  cases isId : field.isId with
  | false =>
    by_cases absent : field.defaultValue = []
    · simp [token?, rest?, shownDefault, idTokens, defaultTokens, isId, absent]
    · by_cases text : field.type = .string
      · simp [token?, rest?, shownDefault, idTokens, defaultTokens, isId, absent, text, word,
          Text.ofString]
      · simp [token?, rest?, shownDefault, idTokens, defaultTokens, isId, absent, text, word]
  | true =>
    by_cases absent : field.defaultValue = []
    · simp [token?, rest?, shownDefault, idTokens, defaultTokens, isId, absent, word]
    · by_cases int : field.type = .int
      · simp [token?, rest?, shownDefault, idTokens, defaultTokens, isId, absent, int, word]
      · simp [token?, rest?, shownDefault, idTokens, defaultTokens, isId, int, word]

/-- The tokens of a field are those of the rules in order. -/
theorem filterMap_token? (field : Field) : all.filterMap (token? field) = tokens field := by
  have unique : (token? field unique).toList = uniqueTokens field := by
    cases isUnique : field.isUnique <;> simp [token?, rest?, uniqueTokens, isUnique, word]
  have updatedAt : (token? field updatedAt).toList = updatedAtTokens field := by
    cases isUpdatedAt : field.isUpdatedAt <;>
      simp [token?, rest?, updatedAtTokens, isUpdatedAt, word]
  have map : (token? field map).toList = mapTokens field := by
    by_cases absent : field.mapName = []
    · simp [token?, rest?, mapTokens, absent]
    · simp [token?, rest?, mapTokens, absent, word, Text.ofString]
  have relation : (token? field relation).toList = relationTokens field := by
    by_cases absent : field.relationFields = [] ∨ field.relationReferences = []
    · simp only [token?, rest?, shownRelation, relationTokens, if_pos absent]
      rfl
    · simp [token?, rest?, shownRelation, relationTokens, absent, word, bracketed, Text.ofString]
  rw [List.filterMap_eq_flatMap_toList]
  simp only [all, List.flatMap_cons, List.flatMap_nil, List.append_nil]
  rw [← List.append_assoc, toList_id_default, unique, updatedAt, map, relation]
  simp [tokens]

/-- No word opens another one. -/
theorem eq_of_word_opens {left right : Rule} (start : left.word <+: right.word) :
    left = right := by
  rw [← List.isPrefixOf_iff_prefix] at start
  revert start
  cases left <;> cases right <;> decide

/-- A token opens with one word only. -/
theorem eq_of_opens {left right : Rule} {token : Text} (leftOpens : left.word <+: token)
    (rightOpens : right.word <+: token) : left = right := by
  rcases List.prefix_or_prefix_of_prefix leftOpens rightOpens with start | start
  · exact eq_of_word_opens start
  · exact (eq_of_word_opens start).symm

/-- The token of a rule is the one that opens with its word. -/
theorem filter_tokens (field : Field) (rule : Rule) :
    (tokens field).filter (rule.word.isPrefixOf ·) = (rule.token? field).toList := by
  have own : ∀ other, (token? field other).filter (rule.word.isPrefixOf ·) =
      if other = rule then token? field rule else none := by
    intro other
    by_cases same : other = rule
    · subst same
      cases written : rest? field other with
      | none => simp [token?, written]
      | some rest => simp [token?, written]
    · cases written : rest? field other with
      | none => simp [token?, written, same]
      | some rest =>
        have apart : ¬ rule.word <+: other.word ++ rest := fun opens =>
          same (eq_of_opens (List.prefix_append _ _) opens)
        simp [token?, written, same, apart]
  rw [← filterMap_token?, List.filter_filterMap]
  simp only [own]
  generalize token? field rule = token
  cases rule <;> cases token <;> rfl

/-- The tokens of a field tell what every rule writes. -/
theorem rest?_eq {left right : Field} (same : tokens left = tokens right) (rule : Rule) :
    rule.rest? left = rule.rest? right := by
  have picked : (rule.token? left).toList = (rule.token? right).toList := by
    rw [← filter_tokens, ← filter_tokens, same]
  have token : rule.token? left = rule.token? right := by
    simpa using congrArg List.head? picked
  exact Option.map_injective (List.append_right_injective rule.word) token

/-- The token of a rule opens with an at sign. -/
theorem head_word (rule : Rule) : rule.word = .char '@' :: rule.word.tail := by
  cases rule <;> decide

/-- The word of a rule holds no other at sign and no line end. -/
theorem mark_notMem_tail_word (rule : Rule) : Text.Lacks rule.word.tail ['@', '\n'] := by
  cases rule <;> decide

end Rule

/-- A comma list that is written anew holds no mark that the list does not hold. -/
theorem mark_notMem_joined {list : Text} (clean : list.Lacks ['@', '\n', '[', ']']) :
    (Text.CommaList.joined (Text.CommaList.tokens list)).Lacks ['@', '\n', '[', ']'] := by
  intro mark mem held
  rcases Text.CommaList.mem_of_mem_joined_tokens held with comma | blank | given
  · injection comma with comma
    subst comma
    simp at mem
  · injection blank with blank
    subst blank
    simp at mem
  · exact clean mark mem given

/-- The default value that is written holds no mark. -/
theorem mark_notMem_shownDefault {field : Field} (clean : field.Clean) :
    (shownDefault field).Lacks ['@', '\n'] := by
  unfold shownDefault
  split
  · simp [Text.Lacks]
  · exact clean.defaultValue

/-- What a rule writes after its word holds no at sign and no line end. -/
theorem mark_notMem_rest {field : Field} (clean : field.Clean) {rule : Rule} {rest : Text}
    (written : rule.rest? field = some rest) : rest.Lacks ['@', '\n'] := by
  cases rule with
  | id | unique | updatedAt =>
    simp only [Rule.rest?, Option.ite_none_right_eq_some, Option.some.injEq] at written
    simp [← written.2, Text.Lacks]
  | default =>
    have value := mark_notMem_shownDefault clean
    simp only [Rule.rest?, Option.ite_none_left_eq_some] at written
    obtain ⟨-, written⟩ := written
    split at written
    · rw [← Option.some.inj written]
      exact (Text.Lacks.append (by decide) value).append (by decide)
    · rw [← Option.some.inj written]
      exact value.append (by decide)
  | map =>
    simp only [Rule.rest?, Option.ite_none_left_eq_some, Option.some.injEq] at written
    rw [← written.2]
    exact (Text.Lacks.append (by decide) clean.mapName).append (by decide)
  | relation =>
    have fields := mark_notMem_joined clean.relationFields
    have references := mark_notMem_joined clean.relationReferences
    simp only [Rule.rest?, shownRelation, Option.map_eq_some_iff,
      Option.ite_none_left_eq_some, Option.some.injEq] at written
    obtain ⟨lists, ⟨-, rfl⟩, rfl⟩ := written
    exact ((((Text.Lacks.append (by decide) (fields.of_subset (by decide))).append
      (by decide)).append (references.of_subset (by decide))).append (by decide))

/-- A token of a clean field is an at sign and a text without at signs and line ends. -/
theorem exists_of_mem_tokens {field : Field} (clean : field.Clean) {token : Text}
    (mem : token ∈ tokens field) : ∃ rest : Text, token = .char '@' :: rest ∧
      rest.Lacks ['@', '\n'] := by
  rw [← Rule.filterMap_token?] at mem
  obtain ⟨rule, -, token_eq⟩ := List.mem_filterMap.mp mem
  obtain ⟨rest, written, rfl⟩ := Option.map_eq_some_iff.mp token_eq
  refine ⟨rule.word.tail ++ rest, ?_, rule.mark_notMem_tail_word.append
    (mark_notMem_rest clean written)⟩
  conv => lhs; rw [rule.head_word]
  rfl

/-! ## The lines of fields -/

/-- A token without its at sign, with the blank that the next token or the end of the line brings
after it. -/
def spacedTail (token : Text) : Text := token.tail ++ [.char ' ']

/-- At signs part the tokens of a line, each of which has a blank after it. -/
theorem tokens_with_blanks {field : Field} (clean : field.Clean) :
    (tokens field).flatMap (CodePoint.char ' ' :: ·) ++ [CodePoint.char ' '] =
      CodePoint.char ' ' :: ((tokens field).map spacedTail).flatMap (CodePoint.char '@' :: ·) := by
  have opened : ∀ token ∈ tokens field, token = .char '@' :: token.tail := by
    intro token mem
    obtain ⟨rest, rfl, -⟩ := exists_of_mem_tokens clean mem
    rfl
  generalize tokens field = list at opened
  induction list with
  | nil => rfl
  | cons token list ih =>
    have later := ih fun other mem => opened other (List.mem_cons_of_mem _ mem)
    rw [List.flatMap_cons, List.append_assoc, later]
    conv => lhs; rw [opened token List.mem_cons_self]
    simp [spacedTail]

/-- A token of a clean field holds no at sign but its first. -/
theorem at_notMem_spacedTail {field : Field} (clean : field.Clean) :
    ∀ tail ∈ (tokens field).map spacedTail, CodePoint.char '@' ∉ tail := by
  intro tail mem
  obtain ⟨token, written, rfl⟩ := List.mem_map.mp mem
  obtain ⟨rest, rfl, lacks⟩ := exists_of_mem_tokens clean written
  have absent := lacks '@' (by decide)
  simpa [spacedTail] using absent

/-- Tokens are told by what follows their at signs. -/
theorem tokens_eq_of_spacedTail {left right : Field} (leftClean : left.Clean)
    (rightClean : right.Clean)
    (same : (tokens left).map spacedTail = (tokens right).map spacedTail) :
    tokens left = tokens right := by
  have restored : ∀ {field : Field}, field.Clean →
      ((tokens field).map spacedTail).map (fun tail => .char '@' :: tail.dropLast) =
        tokens field := by
    intro field clean
    rw [List.map_map]
    conv => rhs; rw [← List.map_id (tokens field)]
    apply List.map_congr_left
    intro token mem
    obtain ⟨rest, rfl, -⟩ := exists_of_mem_tokens clean mem
    simp [spacedTail]
  rw [← restored leftClean, same, restored rightClean]

/-- The line of a clean field stays on one line. -/
theorem newline_notMem_line {field : Field} (clean : field.Clean) :
    CodePoint.char '\n' ∉ line field := by
  have name := clean.name '\n' (by decide)
  have type := mark_notMem_typeText field '\n' (by decide)
  have tokens : ∀ token ∈ tokens field, CodePoint.char '\n' ∉ token := by
    intro token mem
    obtain ⟨rest, rfl, lacks⟩ := exists_of_mem_tokens clean mem
    have := lacks '\n' (by decide)
    simpa using this
  simp only [line, List.mem_append, List.mem_flatMap, List.mem_cons, not_or, not_exists, not_and]
  exact ⟨⟨⟨⟨by decide, name⟩, by decide⟩, type⟩, fun token mem => ⟨by decide, tokens token mem⟩⟩

/-- A relation is read back from what its rule writes. -/
theorem relation_inj {left right : Field} (leftClean : left.Clean) (rightClean : right.Clean)
    (same : Rule.relation.rest? left = Rule.relation.rest? right) :
    shownRelation left = shownRelation right := by
  by_cases leftAbsent : left.relationFields = [] ∨ left.relationReferences = []
  · by_cases rightAbsent : right.relationFields = [] ∨ right.relationReferences = []
    · rw [shownRelation, shownRelation, if_pos leftAbsent, if_pos rightAbsent]
    · simp [Rule.rest?, shownRelation, leftAbsent, rightAbsent] at same
  · by_cases rightAbsent : right.relationFields = [] ∨ right.relationReferences = []
    · simp [Rule.rest?, shownRelation, leftAbsent, rightAbsent] at same
    · have leftFree := mark_notMem_joined leftClean.relationFields ']' (by decide)
      have rightFree := mark_notMem_joined rightClean.relationFields ']' (by decide)
      simp only [Rule.rest?, shownRelation, leftAbsent, rightAbsent, if_false, Option.map_some,
        Option.some.injEq, List.append_assoc, List.append_cancel_left_eq] at same
      have parts := Text.cut_inj leftFree rightFree same
      have fields := congrArg Text.CommaList.tokens parts.1
      have references : Text.CommaList.joined (Text.CommaList.tokens left.relationReferences) =
          Text.CommaList.joined (Text.CommaList.tokens right.relationReferences) := by
        simpa using parts.2
      have references := congrArg Text.CommaList.tokens references
      simp only [Text.CommaList.tokens_joined_tokens] at fields references
      rw [shownRelation, shownRelation, if_neg leftAbsent, if_neg rightAbsent, fields, references]

/-- A default value is read back from what its rule writes, given how it is quoted. -/
theorem default_inj {left right : Field} (isId : left.isId = right.isId)
    (type : left.type = right.type)
    (same : Rule.default.rest? left = Rule.default.rest? right) :
    shownDefault left = shownDefault right := by
  simp only [Rule.rest?, isId, type] at same
  by_cases quoted : right.isId = false ∧ right.type = .string
  all_goals
    simp only [quoted, if_false] at same
    by_cases leftNone : shownDefault left = []
    · by_cases rightNone : shownDefault right = []
      · rw [leftNone, rightNone]
      · simp [leftNone, rightNone] at same
    · by_cases rightNone : shownDefault right = []
      · simp [leftNone, rightNone] at same
      · simpa [leftNone, rightNone] using same

/-- The tokens of two fields of one type tell everything else that their lines show. -/
theorem shown_eq_of_tokens {left right : Field} (leftClean : left.Clean)
    (rightClean : right.Clean) (name : left.name = right.name) (type : left.type = right.type)
    (array : left.isArray = right.isArray) (optional : left.isOptional = right.isOptional)
    (same : tokens left = tokens right) : shown left = shown right := by
  have written := Rule.rest?_eq same
  have isId : left.isId = right.isId := by
    have := written .id
    cases leftId : left.isId <;> cases rightId : right.isId <;>
      simp [Rule.rest?, leftId, rightId] at this ⊢
  have unique : left.isUnique = right.isUnique := by
    have := written .unique
    cases leftUnique : left.isUnique <;> cases rightUnique : right.isUnique <;>
      simp [Rule.rest?, leftUnique, rightUnique] at this ⊢
  have updatedAt : left.isUpdatedAt = right.isUpdatedAt := by
    have := written .updatedAt
    cases leftUpdated : left.isUpdatedAt <;> cases rightUpdated : right.isUpdatedAt <;>
      simp [Rule.rest?, leftUpdated, rightUpdated] at this ⊢
  have value := default_inj isId type (written .default)
  have map : left.mapName = right.mapName := by
    have := written .map
    by_cases leftNone : left.mapName = [] <;> by_cases rightNone : right.mapName = [] <;>
      simp_all [Rule.rest?]
  simp only [shown, name, type, array, optional, isId, unique, updatedAt, value, map,
    relation_inj leftClean rightClean (written .relation)]

/-- The line of a clean field tells everything that it shows. -/
theorem line_inj {left right : Field} (leftClean : left.Clean) (rightClean : right.Clean)
    (same : line left = line right) : shown left = shown right := by
  have blank : Text.ofString " " = [.char ' '] := rfl
  simp only [line, blank, List.append_assoc, List.append_cancel_left_eq, List.cons_append,
    List.nil_append] at same
  obtain ⟨name, rest⟩ := Text.cut_inj (leftClean.name ' ' (by decide))
    (rightClean.name ' ' (by decide)) same
  -- A blank after the line makes every token end in one, whether another token follows or not.
  have spaced : typeText left ++ (CodePoint.char ' ' :: ((tokens left).map spacedTail).flatMap
        (CodePoint.char '@' :: ·)) =
      typeText right ++ (CodePoint.char ' ' :: ((tokens right).map spacedTail).flatMap
        (CodePoint.char '@' :: ·)) := by
    rw [← tokens_with_blanks leftClean, ← tokens_with_blanks rightClean, ← List.append_assoc,
      ← List.append_assoc, rest]
  obtain ⟨type, tails⟩ := Text.cut_inj (mark_notMem_typeText left ' ' (by decide))
    (mark_notMem_typeText right ' ' (by decide)) spaced
  have tails : (tokens left).map spacedTail = (tokens right).map spacedTail :=
    Text.flatMap_inj (at_notMem_spacedTail leftClean) (at_notMem_spacedTail rightClean) tails
  obtain ⟨type, array, optional⟩ := typeText_inj type
  exact shown_eq_of_tokens leftClean rightClean name type array optional
    (tokens_eq_of_spacedTail leftClean rightClean tails)

/-! ## Blocks -/

/-- The lines of clean fields, with the closing brace, tell what every field shows. -/
theorem body_inj {left right : List Field} (leftClean : ∀ field ∈ left, field.Clean)
    (rightClean : ∀ field ∈ right, field.Clean) (same : body left = body right) :
    left.map shown = right.map shown := by
  have brace : ∀ (field : Field) (rest : Text), [CodePoint.char '\x7d'] ≠ line field ++ rest := by
    intro field rest closed
    have head := congrArg List.head? closed
    simp [line, Text.ofString] at head
  induction left generalizing right with
  | nil =>
    cases right with
    | nil => rfl
    | cons field right =>
      simp only [body, List.flatMap_nil, List.nil_append, List.flatMap_cons, List.append_assoc]
        at same
      exact absurd same (brace field _)
  | cons first left ih =>
    cases right with
    | nil =>
      simp only [body, List.flatMap_nil, List.nil_append, List.flatMap_cons, List.append_assoc]
        at same
      exact absurd same.symm (brace first _)
    | cons other right =>
      have firstClean := leftClean first List.mem_cons_self
      have otherClean := rightClean other List.mem_cons_self
      simp only [body, List.flatMap_cons, List.append_assoc, List.cons_append, List.nil_append]
        at same
      obtain ⟨line, rest⟩ := Text.cut_inj (newline_notMem_line firstClean)
        (newline_notMem_line otherClean) same
      have later := ih (fun field mem => leftClean field (List.mem_cons_of_mem _ mem))
        (fun field mem => rightClean field (List.mem_cons_of_mem _ mem)) rest
      rw [List.map_cons, List.map_cons, line_inj firstClean otherClean line, later]

/-- The first line of a block tells the trimmed name, when that stays on one line. -/
theorem header_inj {left right rest others : Text} (leftClean : left.trim.Lacks ['\n'])
    (rightClean : right.trim.Lacks ['\n'])
    (same : header left ++ rest = header right ++ others) :
    left.trim = right.trim ∧ rest = others := by
  have parted : ∀ name rest : Text, header name ++ rest =
      "model " ++ (name.trim ++ Text.ofString " \x7b" ++ CodePoint.char '\n' :: rest) := by
    intro name rest
    simp [header, Text.ofString]
  rw [parted, parted, List.append_cancel_left_eq] at same
  have free : ∀ name : Text, name.Lacks ['\n'] →
      CodePoint.char '\n' ∉ name ++ Text.ofString " \x7b" :=
    fun name lacks => lacks.append (by decide) '\n' (by decide)
  obtain ⟨name, rest⟩ := Text.cut_inj (free _ leftClean) (free _ rightClean) same
  exact ⟨List.append_cancel_right name, rest⟩

/-- A model that has a block has it as a header and a body. -/
theorem eq_of_render {model : Model} {text : Text} (rendered : render model = .ok text) :
    header model.name ++ body (namedFields model) = text := by
  unfold render at rendered
  split at rendered
  · cases rendered
  · split at rendered
    · cases rendered
    · exact Except.ok.inj rendered

/-- Clean models with one block have the same trimmed name, and as many named fields, which show
the same one by one. -/
theorem render_inj {left right : Model} {text : Text} (leftClean : left.Clean)
    (rightClean : right.Clean) (leftText : render left = .ok text)
    (rightText : render right = .ok text) :
    left.name.trim = right.name.trim ∧
      (namedFields left).map shown = (namedFields right).map shown := by
  have same := (eq_of_render leftText).trans (eq_of_render rightText).symm
  obtain ⟨name, body⟩ := header_inj leftClean.name rightClean.name same
  exact ⟨name, body_inj leftClean.fields rightClean.fields body⟩

/-- A model of posts, by the identifiers of its fields and the way its comma list is written. -/
def posts (id references : Text) : Model where
  name := " Post"
  fields := [{ id := id },
    { id := id, name := "author", type := .json, relationFields := "a",
      relationReferences := references }]

/-- Identifiers, fields without a name and blanks in a comma list do not change the block of the
posts, and nothing else about them is left open by it. -/
theorem render_inj_posts :
    (posts "a" "id,key").name.trim = (posts "b" " id , key").name.trim ∧
      (namedFields (posts "a" "id,key")).map shown =
        (namedFields (posts "b" " id , key")).map shown :=
  @render_inj _ _
    "model Post \x7b\n  author Json @relation(fields: [a], references: [id, key])\n\x7d"
    (by decide) (by decide) (by rfl) (by rfl)

end Block

end SchemaDesk
