import Mathlib.Data.List.DropRight
import SchemaDesk.Text.CommaList
/-!
# Pieces and separators

A separator that no piece holds parts the pieces for good: `cutAll` gives back the pieces a text is
put together from, and two texts with one separator after a first part agree on both parts. A comma
list that is written anew therefore keeps its tokens, because writing adds a blank before a token
and trimming takes it away again.
-/

namespace SchemaDesk.Text

/-- Pieces joined with a separator: it stands before every piece but the first. -/
theorem intercalate_cons (separator first : Text) (rest : List Text) :
    List.intercalate separator (first :: rest) = first ++ rest.flatMap (separator ++ ·) := by
  induction rest generalizing first with
  | nil => simp [List.intercalate]
  | cons second rest ih =>
    rw [List.intercalate_cons_cons, ih, List.flatMap_cons]
    simp only [List.append_assoc]

/-- Two texts that agree have the same part before the first separator and the same part after it.
-/
theorem cut_inj {separator : CodePoint} {left right leftRest rightRest : Text}
    (leftFree : separator ∉ left) (rightFree : separator ∉ right)
    (same : left ++ separator :: leftRest = right ++ separator :: rightRest) :
    left = right ∧ leftRest = rightRest := by
  induction left generalizing right with
  | nil =>
    cases right with
    | nil => exact ⟨rfl, List.tail_eq_of_cons_eq same⟩
    | cons point right =>
      have head : separator = point := List.head_eq_of_cons_eq same
      exact absurd (head ▸ List.mem_cons_self) rightFree
  | cons point left ih =>
    cases right with
    | nil =>
      have head : point = separator := List.head_eq_of_cons_eq same
      exact absurd (head ▸ List.mem_cons_self) leftFree
    | cons other right =>
      have head : point = other := List.head_eq_of_cons_eq same
      have parts := ih (fun mem => leftFree (List.mem_cons_of_mem _ mem))
        (fun mem => rightFree (List.mem_cons_of_mem _ mem)) (List.tail_eq_of_cons_eq same)
      exact ⟨by rw [head, parts.1], parts.2⟩

/-- A text that holds no separator is its only piece. -/
theorem pieces_of_notMem {separator : CodePoint} {text : Text} (free : separator ∉ text) :
    pieces separator text = (text, []) := by
  induction text with
  | nil => rfl
  | cons point rest ih =>
    simp only [List.mem_cons, not_or] at free
    simp [pieces, ih free.2, Ne.symm free.1]

/-- The first piece ends at the first separator. -/
theorem pieces_append_cons {separator : CodePoint} {first : Text} (free : separator ∉ first)
    (rest : Text) :
    pieces separator (first ++ separator :: rest) = (first, cutAll separator rest) := by
  induction first with
  | nil => simp [pieces, cutAll]
  | cons point first ih =>
    simp only [List.mem_cons, not_or] at free
    simp [pieces, ih free.2, Ne.symm free.1]

/-- Cutting gives back the pieces that a text is put together from. -/
theorem cutAll_flatMap {separator : CodePoint} {first : Text} {rest : List Text}
    (firstFree : separator ∉ first) (restFree : ∀ piece ∈ rest, separator ∉ piece) :
    cutAll separator (first ++ rest.flatMap (separator :: ·)) = first :: rest := by
  induction rest generalizing first with
  | nil => simp [cutAll, pieces_of_notMem firstFree]
  | cons piece rest ih =>
    have later := ih (restFree piece List.mem_cons_self)
      fun other mem => restFree other (List.mem_cons_of_mem _ mem)
    rw [List.flatMap_cons, List.cons_append, cutAll, pieces_append_cons firstFree]
    exact congrArg (first :: ·) later

/-- The pieces of a text: a separator parts them, and none of them holds it. -/
theorem pieces_eq_iff {separator : CodePoint} {text first : Text} {rest : List Text} :
    pieces separator text = (first, rest) ↔
      text = first ++ rest.flatMap (separator :: ·) ∧
        ∀ piece ∈ first :: rest, separator ∉ piece := by
  constructor
  · intro cut
    have all : cutAll separator text = first :: rest := by rw [cutAll, cut]
    refine ⟨?_, fun piece mem => separator_notMem_cutAll (all ▸ mem)⟩
    rw [← intercalate_cutAll separator text, all, intercalate_cons]
    rfl
  · rintro ⟨rfl, free⟩
    have all := cutAll_flatMap (free first List.mem_cons_self)
      fun piece mem => free piece (List.mem_cons_of_mem _ mem)
    rw [cutAll, List.cons.injEq] at all
    exact Prod.ext all.1 all.2

/-- Pieces that a separator stands before are told apart by it. -/
theorem flatMap_inj {separator : CodePoint} {left right : List Text}
    (leftFree : ∀ piece ∈ left, separator ∉ piece)
    (rightFree : ∀ piece ∈ right, separator ∉ piece)
    (same : left.flatMap (separator :: ·) = right.flatMap (separator :: ·)) : left = right := by
  have cut := congrArg (fun text => cutAll separator ([] ++ text)) same
  simp only [cutAll_flatMap List.not_mem_nil leftFree, cutAll_flatMap List.not_mem_nil rightFree]
    at cut
  exact List.tail_eq_of_cons_eq cut

/-- A text is not cut exactly when it holds no separator. -/
theorem cutFirst_eq_none_iff {separator : CodePoint} {text : Text} :
    cutFirst separator text = none ↔ separator ∉ text := by
  induction text with
  | nil => simp [cutFirst]
  | cons point rest ih =>
    by_cases same : point = separator
    · simp [cutFirst, same]
    · simp [cutFirst, same, ih, Ne.symm same]

/-- A text is cut where the separator stands for the first time. -/
theorem cutFirst_eq_some_iff {separator : CodePoint} {text before after : Text} :
    cutFirst separator text = some (before, after) ↔
      separator ∉ before ∧ text = before ++ separator :: after := by
  induction text generalizing before with
  | nil => simp [cutFirst]
  | cons point rest ih =>
    by_cases same : point = separator
    · cases before with
      | nil => simp [cutFirst, same]
      | cons first before =>
        have other : point = first → first = separator := fun head => head ▸ same
        simp only [cutFirst, same, if_true, List.cons_append, List.cons.injEq, List.mem_cons]
        grind
    · cases before with
      | nil => simp [cutFirst, same]
      | cons first before =>
        have here := @ih before
        simp only [cutFirst, same, if_false, List.cons_append, List.cons.injEq, List.mem_cons,
          Option.map_eq_some_iff]
        grind

/-- A text is blank exactly when trimming leaves nothing of it. -/
theorem trim_eq_nil_iff {text : Text} : trim text = [] ↔ isBlank text = true := by
  have gone : trim text = [] ↔ ∀ point ∈ trimStart text, point.isBlank = true :=
    List.rdropWhile_eq_nil_iff
  rw [gone, ← List.dropWhile_eq_nil_iff, trimStart, List.dropWhile_idempotent,
    List.dropWhile_eq_nil_iff, isBlank, List.all_eq_true]

/-- Trimming the end leaves a start that is trimmed. -/
theorem trimStart_trimEnd_trimStart (text : Text) :
    trimStart (trimEnd (trimStart text)) = trimEnd (trimStart text) := by
  have start : trimEnd (trimStart text) <+: trimStart text :=
    List.rdropWhile_prefix CodePoint.isBlank (trimStart text)
  match left : trimEnd (trimStart text) with
  | [] => rfl
  | first :: rest =>
    rw [left] at start
    obtain ⟨others, whole⟩ := start
    have stops := List.head?_dropWhile_not CodePoint.isBlank text
    rw [← trimStart, ← whole] at stops
    have inked : first.isBlank = false := stops
    exact List.dropWhile_cons_of_neg (by simp [inked])

/-- Trimming is idempotent. -/
@[simp]
theorem trim_trim (text : Text) : trim (trim text) = trim text := by
  rw [trim, trim, trimStart_trimEnd_trimStart]
  exact List.rdropWhile_idempotent CodePoint.isBlank (trimStart text)

/-- A blank before a text does not count. -/
theorem trim_cons_of_isBlank {point : CodePoint} (blank : point.isBlank = true) (text : Text) :
    trim (point :: text) = trim text := by
  rw [trim, trimStart, List.dropWhile_cons_of_pos blank]
  rfl

/-- What trimming leaves of a text is part of the text. -/
theorem mem_of_mem_trim {point : CodePoint} {text : Text} (mem : point ∈ trim text) :
    point ∈ text := by
  have ends : trimEnd (trimStart text) <+: trimStart text :=
    List.rdropWhile_prefix CodePoint.isBlank (trimStart text)
  exact (List.dropWhile_sublist CodePoint.isBlank).mem (ends.sublist.mem mem)

/-- Trimming takes blank code points only. -/
theorem mem_trim_iff {point : CodePoint} (inked : point.isBlank = false) {text : Text} :
    point ∈ trim text ↔ point ∈ text := by
  have kept : ∀ text : Text, point ∈ text → point ∈ text.dropWhile CodePoint.isBlank := by
    intro text mem
    rw [← List.takeWhile_append_dropWhile (p := CodePoint.isBlank) (l := text)] at mem
    refine (List.mem_append.mp mem).resolve_left fun gone => ?_
    rw [List.mem_takeWhile_imp gone] at inked
    cases inked
  refine ⟨mem_of_mem_trim, fun mem => ?_⟩
  exact List.mem_reverse.mpr (kept _ (List.mem_reverse.mpr (kept text mem)))

/-- A text keeps its start exactly when it does not start with a blank. -/
theorem trimStart_eq_self_iff {text : Text} :
    trimStart text = text ↔ ∀ point ∈ text.head?, point.isBlank = false := by
  rw [trimStart, List.dropWhile_eq_self_iff]
  cases text with
  | nil => simp
  | cons point rest => simp

/-- A text is trimmed exactly when it neither starts nor ends with a blank. -/
theorem trim_eq_self_iff {text : Text} :
    trim text = text ↔ (∀ point ∈ text.head?, point.isBlank = false) ∧
      ∀ point ∈ text.getLast?, point.isBlank = false := by
  have ends : trimEnd text = text ↔ ∀ point ∈ text.getLast?, point.isBlank = false := by
    have turned : trimEnd text = (trimStart text.reverse).reverse := rfl
    rw [turned, List.reverse_eq_iff, trimStart_eq_self_iff, List.head?_reverse]
  rw [← trimStart_eq_self_iff, ← ends]
  constructor
  · intro trimmed
    have start : trimStart text = text := by
      refine (List.dropWhile_sublist CodePoint.isBlank).antisymm ?_
      have ended : trim text <+: trimStart text := List.rdropWhile_prefix CodePoint.isBlank _
      rw [trimmed] at ended
      exact ended.sublist
    rw [trim, start] at trimmed
    exact ⟨start, trimmed⟩
  · rintro ⟨start, ended⟩
    rw [trim, start, ended]

/-- Trimmed texts, one after another, are trimmed. -/
theorem trim_append {left right : Text} (leftTrimmed : trim left = left)
    (rightTrimmed : trim right = right) : trim (left ++ right) = left ++ right := by
  rw [trim_eq_self_iff] at leftTrimmed rightTrimmed ⊢
  rw [List.head?_append, List.getLast?_append]
  constructor
  · intro point start
    rcases Option.or_eq_some_iff.mp start with first | ⟨-, first⟩
    · exact leftTrimmed.1 point first
    · exact rightTrimmed.1 point first
  · intro point ended
    rcases Option.or_eq_some_iff.mp ended with last | ⟨-, last⟩
    · exact rightTrimmed.2 point last
    · exact leftTrimmed.2 point last

/-- Trimmed pieces, each behind a separator that is no blank, are trimmed. -/
theorem trim_flatMap {separator : CodePoint} (inked : separator.isBlank = false)
    {pieces : List Text} (trimmed : ∀ piece ∈ pieces, trim piece = piece) :
    trim (pieces.flatMap (separator :: ·)) = pieces.flatMap (separator :: ·) := by
  induction pieces with
  | nil => rfl
  | cons piece rest ih =>
    have alone : trim [separator] = [separator] := by simp [trim_eq_self_iff, inked]
    have first : trim (separator :: piece) = separator :: piece :=
      trim_append alone (trimmed piece List.mem_cons_self)
    rw [List.flatMap_cons]
    exact trim_append first (ih fun other mem => trimmed other (List.mem_cons_of_mem _ mem))

/-- Every code point of a piece comes from the text. -/
theorem mem_of_mem_cutAll {separator point : CodePoint} {text piece : Text}
    (cut : piece ∈ cutAll separator text) (mem : point ∈ piece) : point ∈ text := by
  rw [← intercalate_cutAll separator text, cutAll, intercalate_cons, List.mem_append,
    List.mem_flatMap]
  rcases List.mem_cons.mp cut with rfl | later
  · exact .inl mem
  · exact .inr ⟨piece, later, List.mem_append_right _ mem⟩

namespace CommaList

/-- Every token is trimmed. -/
theorem trim_of_mem_tokens {text token : Text} (mem : token ∈ tokens text) :
    trim token = token := by
  obtain ⟨piece, -, rfl⟩ := List.mem_map.mp mem
  exact trim_trim piece

/-- No token holds a comma. -/
theorem comma_notMem_of_mem_tokens {text token : Text} (mem : token ∈ tokens text) :
    CodePoint.char ',' ∉ token := by
  obtain ⟨piece, cut, rfl⟩ := List.mem_map.mp mem
  exact fun comma => separator_notMem_cutAll cut (mem_of_mem_trim comma)

/-- A code point of a token comes from the text. -/
theorem mem_of_mem_tokens {point : CodePoint} {text token : Text} (token_mem : token ∈ tokens text)
    (mem : point ∈ token) : point ∈ text := by
  obtain ⟨piece, cut, rfl⟩ := List.mem_map.mp token_mem
  exact mem_of_mem_cutAll cut (mem_of_mem_trim mem)

/-- Tokens are joined with a comma and a blank before every token but the first. -/
theorem joined_cons (first : Text) (rest : List Text) :
    joined (first :: rest) = first ++ (rest.map (CodePoint.char ' ' :: ·)).flatMap
      (CodePoint.char ',' :: ·) := by
  have comma : Text.ofString ", " = [.char ',', .char ' '] := rfl
  rw [joined, intercalate_cons, comma, List.flatMap_map]
  rfl

/-- Tokens that are trimmed and hold no comma are read back from the list they are joined to. -/
theorem tokens_joined {list : List Text} (left : list ≠ [])
    (trimmed : ∀ token ∈ list, trim token = token)
    (free : ∀ token ∈ list, CodePoint.char ',' ∉ token) : tokens (joined list) = list := by
  cases list with
  | nil => exact absurd rfl left
  | cons first rest =>
    have restFree : ∀ piece ∈ rest.map (CodePoint.char ' ' :: ·), CodePoint.char ',' ∉ piece := by
      intro piece mem
      obtain ⟨token, token_mem, rfl⟩ := List.mem_map.mp mem
      have absent := free token (List.mem_cons_of_mem _ token_mem)
      simpa using absent
    rw [tokens, joined_cons, cutAll_flatMap (free first List.mem_cons_self) restFree,
      List.map_cons, trimmed first List.mem_cons_self, List.map_map]
    congr 1
    conv => rhs; rw [← List.map_id rest]
    apply List.map_congr_left
    intro token mem
    rw [Function.comp_apply, trim_cons_of_isBlank (by decide)]
    exact trimmed token (List.mem_cons_of_mem _ mem)

/-- A comma list written anew has the same tokens. -/
theorem tokens_joined_tokens (text : Text) : tokens (joined (tokens text)) = tokens text :=
  tokens_joined (by simp [tokens, cutAll]) (fun _ => trim_of_mem_tokens)
    fun _ => comma_notMem_of_mem_tokens

/-- A comma list written anew holds commas, blanks and what the list held. -/
theorem mem_of_mem_joined_tokens {point : CodePoint} {text : Text}
    (mem : point ∈ joined (tokens text)) :
    point = CodePoint.char ',' ∨ point = CodePoint.char ' ' ∨ point ∈ text := by
  have given : ∀ token ∈ tokens text, point ∈ token → point ∈ text :=
    fun _ => mem_of_mem_tokens
  generalize tokens text = list at mem given
  cases list with
  | nil => simp [joined, List.intercalate] at mem
  | cons first rest =>
    rw [joined_cons] at mem
    rcases List.mem_append.mp mem with here | later
    · exact .inr (.inr (given first List.mem_cons_self here))
    · simp only [List.mem_flatMap, List.mem_map] at later
      obtain ⟨piece, ⟨token, token_mem, rfl⟩, mem⟩ := later
      simp only [List.mem_cons] at mem
      rcases mem with comma | blank | mem
      · exact .inl comma
      · exact .inr (.inl blank)
      · exact .inr (.inr (given token (List.mem_cons_of_mem _ token_mem) mem))

end CommaList

end SchemaDesk.Text
