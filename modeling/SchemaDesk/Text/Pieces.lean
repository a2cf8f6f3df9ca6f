import SchemaDesk.Text.Basic

/-!
# Cutting a text at a separator

`cutFirst` cuts a text at the first occurrence of a separator, `cutAll` at every occurrence. The
pieces of `cutAll`, joined with the separator, are the text again, so nothing is lost and the
pieces hold no separator.
-/

namespace SchemaDesk.Text

/-- The parts before and after the first separator; none when the text has no separator. -/
def cutFirst (separator : CodePoint) : Text → Option (Text × Text)
  | [] => none
  | point :: rest =>
    if point = separator then some ([], rest)
    else (cutFirst separator rest).map fun parts => (point :: parts.1, parts.2)

/-- The first piece of a text and the pieces after its separators. -/
def pieces (separator : CodePoint) : Text → Text × List Text
  | [] => ([], [])
  | point :: rest =>
    let cut := pieces separator rest
    if point = separator then ([], cut.1 :: cut.2) else (point :: cut.1, cut.2)

/-- The pieces of a text between its separators: one more than it has separators. -/
def cutAll (separator : CodePoint) (text : Text) : List Text :=
  (pieces separator text).1 :: (pieces separator text).2

/-- The pieces joined with the separator are the text. -/
theorem intercalate_cutAll (separator : CodePoint) (text : Text) :
    List.intercalate [separator] (cutAll separator text) = text := by
  induction text with
  | nil => rfl
  | cons point rest ih =>
    by_cases same : point = separator
    · subst same
      simpa [cutAll, pieces, List.intercalate] using ih
    · cases later : (pieces separator rest).2 with
      | nil => simpa [cutAll, pieces, same, List.intercalate, later] using ih
      | cons _ _ => simpa [cutAll, pieces, same, List.intercalate, later] using ih

/-- No piece holds the separator. -/
theorem separator_notMem_cutAll {separator : CodePoint} {text piece : Text}
    (mem : piece ∈ cutAll separator text) : separator ∉ piece := by
  induction text generalizing piece with
  | nil =>
    have : piece = [] := by simpa [cutAll, pieces] using mem
    simp [this]
  | cons point rest ih =>
    by_cases same : point = separator
    · simp only [cutAll, pieces, same, if_true, List.mem_cons] at mem
      rcases mem with rfl | mem
      · simp
      · exact ih (by simpa [cutAll] using mem)
    · simp only [cutAll, pieces, same, if_false, List.mem_cons] at mem
      rcases mem with rfl | mem
      · have := @ih (pieces separator rest).1 (by simp [cutAll])
        simp [this, Ne.symm same]
      · exact ih (by simp [cutAll, mem])

/-- There is one piece more than the text has separators. -/
theorem length_cutAll (separator : CodePoint) (text : Text) :
    (cutAll separator text).length = text.count separator + 1 := by
  induction text with
  | nil => rfl
  | cons point rest ih =>
    by_cases same : point = separator
    · simpa [cutAll, pieces, same] using ih
    · simpa [cutAll, pieces, same] using ih

end SchemaDesk.Text
