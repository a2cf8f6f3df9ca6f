import SchemaDesk.Block
import SchemaDesk.Proofs.Text.Separated
/-!
# Blanks around pieces

Blanks at the ends of a text do not count once it is trimmed, and blanks next to a separator do not
count once the pieces are (`Text.trimmedPieces`). So a text keeps its trimmed pieces when blanks are
put before it, behind it or around one of its separators. Comma lists are read by their trimmed
pieces, and whatever blanks stand around the tokens, the same tokens are read
(`CommaList.tokens_regained`).
-/

namespace SchemaDesk.Text

variable {separator : CodePoint}

/-! ## Blanks around a text -/

/-- Blanks before a text do not count. -/
theorem trim_append_left {before : Text} (blank : before.isBlank = true) (text : Text) :
    trim (before ++ text) = trim text := by
  induction before with
  | nil => rfl
  | cons point before ih =>
    simp only [isBlank, List.all_cons, Bool.and_eq_true] at blank
    rw [List.cons_append, trim_cons_of_isBlank blank.1]
    exact ih blank.2

/-- Blanks after a text do not count. -/
theorem trim_append_right {after : Text} (blank : after.isBlank = true) (text : Text) :
    trim (text ++ after) = trim text := by
  have gone : after.dropWhile CodePoint.isBlank = [] :=
    List.dropWhile_eq_nil_iff.mpr (List.all_eq_true.mp blank)
  have goneBack : after.reverse.dropWhile CodePoint.isBlank = [] :=
    List.dropWhile_eq_nil_iff.mpr fun point mem =>
      List.all_eq_true.mp blank point (List.mem_reverse.mp mem)
  rw [trim, trim, trimStart, trimStart, List.dropWhile_append]
  split
  · next nothing =>
    rw [gone, List.isEmpty_iff.mp nothing]
  · next something =>
    rw [trimEnd, List.reverse_append, List.dropWhile_append, goneBack, List.isEmpty_nil, if_pos rfl]
    rfl

/-- Blanks around a text do not count. -/
theorem trim_padded {before after : Text} (blankBefore : before.isBlank = true)
    (blankAfter : after.isBlank = true) (text : Text) :
    trim (before ++ (text ++ after)) = trim text := by
  rw [trim_append_left blankBefore, trim_append_right blankAfter]

/-- Texts with one trimmed form are both blank or both not. -/
theorem isBlank_eq_of_trim {left right : Text} (same : trim left = trim right) :
    left.isBlank = right.isBlank := by
  rw [Bool.eq_iff_iff, ← trim_eq_nil_iff, ← trim_eq_nil_iff, same]

/-- What stands before the first code point that is not blank is blank. -/
theorem isBlank_takeWhile (text : Text) : isBlank (text.takeWhile CodePoint.isBlank) = true :=
  List.all_eq_true.mpr fun _ mem => List.mem_takeWhile_imp mem

/-- A text is what is left without the blanks at its end, with blanks behind. -/
theorem exists_blank_end (text : Text) :
    ∃ after : Text, after.isBlank = true ∧ text = trimEnd text ++ after := by
  let after : Text := (text.reverse.takeWhile CodePoint.isBlank).reverse
  have blank : after.isBlank = true := by
    rw [isBlank, List.all_reverse]
    exact isBlank_takeWhile text.reverse
  refine ⟨after, blank, ?_⟩
  rw [trimEnd, ← List.reverse_append, List.takeWhile_append_dropWhile, List.reverse_reverse]

/-- A text is what its trimming leaves, with blanks around. -/
theorem exists_padding (text : Text) : ∃ before after : Text, before.isBlank = true ∧
    after.isBlank = true ∧ text = before ++ (text.trim ++ after) := by
  let before : Text := text.takeWhile CodePoint.isBlank
  obtain ⟨after, blankAfter, ended⟩ := exists_blank_end text.trimStart
  have begun : text = before ++ text.trimStart := (List.takeWhile_append_dropWhile).symm
  refine ⟨before, after, isBlank_takeWhile text, blankAfter, ?_⟩
  rw [trim, ← ended]
  exact begun

/-- Blanks at the start of a text end before a code point that is no blank. -/
theorem trimStart_cut {mark : CodePoint} (inked : mark.isBlank = false) (before after : Text) :
    trimStart (before ++ mark :: after) = trimStart before ++ mark :: after := by
  have kept : (mark :: after).dropWhile CodePoint.isBlank = mark :: after :=
    List.dropWhile_cons_of_neg (by simp [inked])
  rw [trimStart, trimStart, List.dropWhile_append]
  split
  · next nothing =>
    rw [kept, List.isEmpty_iff.mp nothing]
    rfl
  · rfl

/-- Blanks at the end of a text begin behind a code point that is no blank. -/
theorem trimEnd_cut {mark : CodePoint} (inked : mark.isBlank = false) (before after : Text) :
    trimEnd (before ++ mark :: after) = before ++ mark :: trimEnd after := by
  have turned : ∀ text : Text, trimEnd text = (trimStart text.reverse).reverse := fun _ => rfl
  rw [turned, turned, List.reverse_append, List.reverse_cons, List.append_assoc,
    List.singleton_append, trimStart_cut inked, List.reverse_append, List.reverse_cons,
    List.reverse_reverse, List.append_assoc, List.singleton_append]

/-- Trimming works on the two sides of a code point that is no blank on its own. -/
theorem trim_cut {mark : CodePoint} (inked : mark.isBlank = false) (before after : Text) :
    trim (before ++ mark :: after) = trimStart before ++ mark :: trimEnd after := by
  rw [trim, trimStart_cut inked, trimEnd_cut inked]

/-- Blanks at the start may be taken away before trimming. -/
theorem trim_trimStart (text : Text) : trim (trimStart text) = trim text := by
  rw [trim, trimStart, trimStart, List.dropWhile_idempotent]
  rfl

/-- Blanks at the end may be taken away before trimming. -/
theorem trim_trimEnd (text : Text) : trim (trimEnd text) = trim text := by
  obtain ⟨after, blank, ended⟩ := exists_blank_end text
  conv => rhs; rw [ended]
  rw [trim_append_right blank]

/-- A separator that is no blank stands in no blank text. -/
theorem notMem_of_isBlank (inked : separator.isBlank = false) {text : Text}
    (blank : text.isBlank = true) : separator ∉ text := by
  intro mem
  have blankHere : separator.isBlank = true := List.all_eq_true.mp blank separator mem
  rw [inked] at blankHere
  cases blankHere

/-- Blanks after a text bring no separator that is no blank. -/
theorem notMem_append_blank (inked : separator.isBlank = false) {text blanks : Text}
    (free : separator ∉ text) (blank : blanks.isBlank = true) : separator ∉ text ++ blanks := by
  rw [List.mem_append, not_or]
  exact ⟨free, notMem_of_isBlank inked blank⟩

/-! ## Trimmed pieces -/

/-- The pieces of a text between its separators, without the blanks at their ends. -/
def trimmedPieces (separator : CodePoint) (text : Text) : List Text :=
  (text.cutAll separator).map trim

/-- A text without separators in front belongs to the first piece. -/
theorem pieces_append_of_notMem {before : Text} (free : separator ∉ before) (text : Text) :
    pieces separator (before ++ text) =
      (before ++ (pieces separator text).1, (pieces separator text).2) := by
  induction before with
  | nil => rfl
  | cons point before ih =>
    simp only [List.mem_cons, not_or] at free
    rw [List.cons_append, pieces, ih free.2, if_neg (Ne.symm free.1)]
    rfl

/-- A separator parts the pieces before it from those after it. -/
theorem cutAll_append_cons (before after : Text) :
    cutAll separator (before ++ separator :: after) =
      cutAll separator before ++ cutAll separator after := by
  induction before with
  | nil => simp [cutAll, pieces]
  | cons point before ih =>
    rw [cutAll, cutAll, List.cons_append, List.cons.injEq] at ih
    by_cases same : point = separator
    · simp [cutAll, pieces, same, ih.1, ih.2]
    · simp [cutAll, pieces, same, ih.1, ih.2]

/-- A text without the separator is one piece. -/
theorem trimmedPieces_of_notMem {text : Text} (free : separator ∉ text) :
    trimmedPieces separator text = [trim text] := by
  rw [trimmedPieces, cutAll, pieces_of_notMem free]
  rfl

/-- A separator comes between the pieces before and behind it. -/
theorem trimmedPieces_append_cons (before after : Text) :
    trimmedPieces separator (before ++ separator :: after) =
      trimmedPieces separator before ++ trimmedPieces separator after := by
  rw [trimmedPieces, cutAll_append_cons, List.map_append]
  rfl

/-- A text without separators in front belongs to the first trimmed piece. -/
theorem trimmedPieces_append_of_notMem {before : Text} (free : separator ∉ before) (text : Text) :
    trimmedPieces separator (before ++ text) =
      trim (before ++ (pieces separator text).1) :: (pieces separator text).2.map trim := by
  rw [trimmedPieces, cutAll, pieces_append_of_notMem free]
  rfl

/-- A mark that is no separator stands in the first trimmed piece when no separator is before it. -/
theorem trimmedPieces_cut {mark : CodePoint} (apart : mark ≠ separator) {before : Text}
    (free : separator ∉ before) (after : Text) :
    trimmedPieces separator (before ++ mark :: after) =
      trim (before ++ mark :: (pieces separator after).1) ::
        (pieces separator after).2.map trim := by
  have together : separator ∉ before ++ [mark] := by
    rw [List.mem_append, List.mem_singleton, not_or]
    exact ⟨free, Ne.symm apart⟩
  rw [List.append_cons, trimmedPieces_append_of_notMem together, ← List.append_cons]

/-- Blanks around a mark that is no separator stay in the first piece. -/
theorem trimmedPieces_cut_padded (inked : separator.isBlank = false) {mark : CodePoint}
    (apart : mark ≠ separator) {before left right : Text} (free : separator ∉ before)
    (blankLeft : left.isBlank = true) (blankRight : right.isBlank = true) (after : Text) :
    trimmedPieces separator (before ++ (left ++ mark :: (right ++ after))) =
      trim (before ++ left ++ mark :: (right ++ (pieces separator after).1)) ::
        (pieces separator after).2.map trim := by
  rw [← List.append_assoc, trimmedPieces_cut apart (notMem_append_blank inked free blankLeft),
    pieces_append_of_notMem (notMem_of_isBlank inked blankRight)]

/-- Texts without separators are one piece each. -/
theorem flatMap_trimmedPieces_of_notMem {texts : List Text}
    (free : ∀ text ∈ texts, separator ∉ text) :
    texts.flatMap (trimmedPieces separator) = texts.map trim := by
  rw [← List.flatMap_pure_eq_map]
  exact List.flatMap_congr fun text mem => trimmedPieces_of_notMem (free text mem)

/-- The trimmed pieces of texts behind separators come one after another. -/
theorem trimmedPieces_flatMap (first : Text) (rest : List Text) :
    trimmedPieces separator (first ++ rest.flatMap (separator :: ·)) =
      trimmedPieces separator first ++ rest.flatMap (trimmedPieces separator) := by
  induction rest generalizing first with
  | nil => rw [List.flatMap_nil, List.flatMap_nil, List.append_nil, List.append_nil]
  | cons second rest ih =>
    rw [List.flatMap_cons, List.flatMap_cons, List.cons_append, trimmedPieces_append_cons, ih]

/-- Blanks before a text are blanks before its first piece. -/
theorem trimmedPieces_append_left (inked : separator.isBlank = false) {before : Text}
    (blank : before.isBlank = true) (text : Text) :
    trimmedPieces separator (before ++ text) = trimmedPieces separator text := by
  rw [trimmedPieces_append_of_notMem (notMem_of_isBlank inked blank), trim_append_left blank]
  rfl

/-- Blanks after a text are blanks after its last piece. -/
theorem trimmedPieces_append_right (inked : separator.isBlank = false) {after : Text}
    (blank : after.isBlank = true) (text : Text) :
    trimmedPieces separator (text ++ after) = trimmedPieces separator text := by
  obtain ⟨written, free⟩ := pieces_eq_iff.mp (rfl : pieces separator text = (_, _))
  -- Only the last piece comes to stand before the blanks, so the pieces before it are taken away.
  generalize (pieces separator text).1 = first at written free
  generalize (pieces separator text).2 = rest at written free
  subst written
  rw [List.forall_mem_cons] at free
  induction rest generalizing first with
  | nil =>
    have together : separator ∉ first ++ after := notMem_append_blank inked free.1 blank
    rw [List.flatMap_nil, List.append_nil, trimmedPieces_of_notMem together,
      trimmedPieces_of_notMem free.1, trim_append_right blank]
  | cons piece rest ih =>
    have later := ih piece (List.forall_mem_cons.mp free.2)
    rw [List.flatMap_cons, List.cons_append, List.append_assoc, List.cons_append,
      trimmedPieces_append_cons, trimmedPieces_append_cons, later]

/-- A text has the trimmed pieces of what its trimming leaves. -/
theorem trimmedPieces_trim (inked : separator.isBlank = false) (text : Text) :
    trimmedPieces separator text.trim = trimmedPieces separator text := by
  obtain ⟨before, after, blankBefore, blankAfter, written⟩ := exists_padding text
  conv => rhs; rw [written]
  rw [trimmedPieces_append_left inked blankBefore, trimmedPieces_append_right inked blankAfter]

/-- Blanks around a separator do not count. -/
theorem trimmedPieces_around (inked : separator.isBlank = false) {left right : Text}
    (blankLeft : left.isBlank = true) (blankRight : right.isBlank = true) (before after : Text) :
    trimmedPieces separator (before ++ (left ++ separator :: (right ++ after))) =
      trimmedPieces separator (before ++ separator :: after) := by
  rw [← List.append_assoc, trimmedPieces_append_cons, trimmedPieces_append_cons,
    trimmedPieces_append_right inked blankLeft, trimmedPieces_append_left inked blankRight]

/-! ## Comma lists -/

namespace CommaList

/-- A token as a comma list may write it: with blanks around. -/
structure PaddedToken where
  /-- The blanks before the token. -/
  before : Text
  /-- The token. -/
  token : Text
  /-- The blanks after the token. -/
  after : Text
  /-- There are only blanks before it. -/
  blankBefore : before.isBlank = true
  /-- It has no blanks of its own at its ends. -/
  trimmed : token.trim = token
  /-- It holds no comma. -/
  free : .char ',' ∉ token
  /-- There are only blanks after it. -/
  blankAfter : after.isBlank = true

/-- A token with the blanks around it. -/
def PaddedToken.text (padded : PaddedToken) : Text :=
  padded.before ++ (padded.token ++ padded.after)

/-- A padded token is one piece of a comma list, which is read as the token. -/
theorem PaddedToken.tokens_text (padded : PaddedToken) : tokens padded.text = [padded.token] := by
  have inked : (CodePoint.char ',').isBlank = false := by decide
  have free : .char ',' ∉ padded.text := by
    rw [text, List.mem_append, List.mem_append, not_or, not_or]
    exact ⟨notMem_of_isBlank inked padded.blankBefore, padded.free,
      notMem_of_isBlank inked padded.blankAfter⟩
  have read : tokens padded.text = [trim padded.text] := trimmedPieces_of_notMem free
  rw [read, text, trim_padded padded.blankBefore padded.blankAfter, padded.trimmed]

/-- The tokens of a list behind a comma come after those before it. -/
theorem tokens_append_cons (before after : Text) :
    tokens (before ++ .char ',' :: after) = tokens before ++ tokens after :=
  trimmedPieces_append_cons before after

/-- Padded tokens that are joined with commas are read as the tokens. -/
theorem tokens_padded {padded : List PaddedToken} (nonempty : padded ≠ []) :
    tokens (List.intercalate [.char ','] (padded.map PaddedToken.text)) =
      padded.map PaddedToken.token := by
  induction padded with
  | nil => exact absurd rfl nonempty
  | cons first rest ih =>
    cases rest with
    | nil =>
      rw [List.map_singleton, List.intercalate_singleton, List.map_singleton]
      exact first.tokens_text
    | cons second rest =>
      have later := ih (List.cons_ne_nil second rest)
      rw [List.map_cons, List.map_cons, List.intercalate_cons_cons, List.append_assoc,
        List.singleton_append, tokens_append_cons, first.tokens_text, ← List.map_cons, later]
      rfl

/-- Comma lists are read and written consistently. A list has one token more than it has commas, and
every token is trimmed and holds no comma. The list written anew, as it stands between the brackets
of a relation, is read as the same tokens, so two lists stand there in the same way exactly when
they have the same tokens. Tokens that are trimmed and hold no comma are read back from the list
that joins them with commas, whatever blanks stand around the commas and at the ends. -/
theorem tokens_regained :
    (∀ text : Text,
      (tokens text).length = text.count (.char ',') + 1 ∧
      (∀ token ∈ tokens text, token.trim = token ∧ .char ',' ∉ token) ∧
      tokens (joined (tokens text)) = tokens text ∧
      Block.bracketed text = .char '[' :: (joined (tokens text) ++ [.char ']'])) ∧
    (∀ left right : Text, Block.bracketed left = Block.bracketed right ↔
      tokens left = tokens right) ∧
    ∀ padded : List PaddedToken, padded ≠ [] →
      tokens (List.intercalate [.char ','] (padded.map PaddedToken.text)) =
        padded.map PaddedToken.token := by
  have inside : ∀ text : Text,
      Block.bracketed text = .char '[' :: (joined (tokens text) ++ [.char ']']) := fun _ => rfl
  refine ⟨fun text => ⟨length_tokens text, fun token mem => ?_, tokens_joined_tokens text,
    inside text⟩, fun left right => ?_, fun padded nonempty => tokens_padded nonempty⟩
  · exact ⟨trim_of_mem_tokens mem, comma_notMem_of_mem_tokens mem⟩
  · constructor
    · intro same
      rw [inside, inside] at same
      have written : joined (tokens left) = joined (tokens right) :=
        List.append_cancel_right (List.tail_eq_of_cons_eq same)
      rw [← tokens_joined_tokens left, written, tokens_joined_tokens]
    · intro same
      rw [inside, inside, same]

/-- Tokens of which one is empty and one has a blank inside, with tabs and other blanks around. -/
def spacedTokens : List PaddedToken :=
  [⟨"\t", "user id", " ", by decide, by decide, by decide, by decide⟩,
    ⟨[], [], "\u2003\x1f", by decide, by decide, by decide, by decide⟩,
    ⟨" ", "org", [], by decide, by decide, by decide, by decide⟩]

/-- An empty token and a blank within a token are read back. -/
theorem tokens_regained_spaced :
    spacedTokens ≠ [] ∧
      tokens (List.intercalate [.char ','] (spacedTokens.map PaddedToken.text)) =
        [Text.ofString "user id", [], Text.ofString "org"] := by
  have nonempty : spacedTokens ≠ [] := List.cons_ne_nil _ _
  exact ⟨nonempty, tokens_regained.2.2 spacedTokens nonempty⟩

end CommaList

end SchemaDesk.Text
