import SchemaDesk.Shape.Content
import SchemaDesk.Text.LetterCase
/-!
# Words in any letter case

A text is lowered by the case mappings of all scripts, and then looked up among words of small ASCII
letters. Two characters that are not ASCII have a small ASCII letter in their lower-case form: the
Kelvin sign becomes a `k`, and the capital I with a dot becomes an `i` with a dot after it. So a
word without a `k` is the lower-case form of its spellings in ASCII letters and of nothing else
(`Text.lower_eq_iff`).
-/

namespace SchemaDesk

/-- Whether a code point is a small ASCII letter other than `k`. -/
def CodePoint.isOwnLetter : CodePoint → Bool
  | .char c => 97 ≤ c.toNat && c.toNat ≤ 122 && c.toNat != 107
  | .half _ => false

namespace Text

/-- Whether two texts are the same up to the case of ASCII letters. -/
def SameUpToCase (left right : Text) : Prop :=
  left.map Content.asciiLower = right.map Content.asciiLower

/-- Whether two texts are the same up to case can be decided. -/
instance : DecidableRel SameUpToCase := fun left right =>
  inferInstanceAs (Decidable (left.map Content.asciiLower = right.map Content.asciiLower))

/-- The number of a character in lower case: the small ASCII letters come thirty-two places after
the capitals. -/
theorem toNat_toLower (c : Char) :
    c.toLower.toNat = if 65 ≤ c.toNat ∧ c.toNat ≤ 90 then c.toNat + 32 else c.toNat := by
  have code : c.val.toNat = c.toNat := rfl
  by_cases capital : 65 ≤ c.toNat ∧ c.toNat ≤ 90
  · have bounds : c.val ≥ 'A'.val ∧ c.val ≤ 'Z'.val := by
      rw [ge_iff_le, UInt32.le_iff_toNat_le, UInt32.le_iff_toNat_le]
      exact capital
    have lowered : c.toLower.val = c.val + ('a'.val - 'A'.val) :=
      congrArg Char.val (dif_pos bounds)
    rw [if_pos capital, ← code]
    change c.toLower.val.toNat = _
    rw [lowered, UInt32.toNat_add, code]
    change (c.toNat + 32) % 2 ^ 32 = _
    omega
  · have bounds : ¬ (c.val ≥ 'A'.val ∧ c.val ≤ 'Z'.val) := by
      rw [ge_iff_le, UInt32.le_iff_toNat_le, UInt32.le_iff_toNat_le]
      exact capital
    have same : c.toLower = c := dif_neg bounds
    rw [if_neg capital, same]

/-! ## The table of mappings -/

/-- Only the runs of the ASCII capitals and of the Kelvin sign have ASCII images. -/
theorem lowerRuns_image : ∀ run ∈ lowerRuns, run.image < 128 →
    (run.first = 65 ∧ run.last = 90 ∧ run.image = 97) ∨
      (run.first = run.last ∧ run.image = 107) := by
  decide +kernel

/-- The small ASCII letters have no other lower-case form. -/
theorem lowerRuns_small : ∀ code < 123, 97 ≤ code →
    lowerRuns.findSome? (·.map? code) = none := by
  decide +kernel

/-- The ASCII capitals have the small letters as their lower-case forms. -/
theorem lowerRuns_capital : ∀ code < 91, 65 ≤ code →
    lowerRuns.findSome? (·.map? code) = some (code + 32) := by
  decide +kernel

/-- A mapping with a small ASCII letter other than `k` as its image maps an ASCII capital. -/
theorem capital_of_lowerRuns {code image : Nat}
    (found : lowerRuns.findSome? (·.map? code) = some image) (ascii : image < 128)
    (own : image ≠ 107) : 65 ≤ code ∧ code ≤ 90 ∧ image = code + 32 := by
  obtain ⟨run, mem, mapped⟩ := List.exists_of_findSome?_eq_some found
  rw [CaseRun.map?, Option.ite_none_right_eq_some, Option.some.injEq] at mapped
  obtain ⟨⟨first, last, -⟩, image⟩ := mapped
  rcases lowerRuns_image run mem (by omega) with capitals | kelvin
  · omega
  · omega

/-- The character with a number other than zero. -/
theorem ofNat_eq_iff {number : Nat} {c : Char} (positive : c.toNat ≠ 0) :
    Char.ofNat number = c ↔ number = c.toNat := by
  constructor
  · intro same
    rw [← Char.toNat_inj] at same
    by_cases valid : number.isValidChar
    · rw [Char.ofNat, dif_pos valid] at same
      exact same
    · rw [Char.ofNat, dif_neg valid] at same
      exact absurd same.symm positive
  · rintro rfl
    exact Char.ofNat_toNat c

/-- The character that the table gives for a character is a small ASCII letter other than `k` for
the two ASCII letters only. -/
theorem lowerRuns_eq_iff {c letter : Char}
    (own : 97 ≤ letter.toNat ∧ letter.toNat ≤ 122 ∧ letter.toNat ≠ 107) :
    ((lowerRuns.findSome? (·.map? c.toNat)).map Char.ofNat).getD c = letter ↔
      c.toLower = letter := by
  rw [← Char.toNat_inj (c := c.toLower), toNat_toLower]
  by_cases capital : 65 ≤ c.toNat ∧ c.toNat ≤ 90
  · rw [lowerRuns_capital c.toNat (by omega) capital.1, if_pos capital]
    exact ofNat_eq_iff (by omega)
  · rw [if_neg capital]
    cases found : lowerRuns.findSome? (·.map? c.toNat) with
    | none => exact Char.toNat_inj.symm
    | some image =>
      rw [Option.map_some, Option.getD_some, ofNat_eq_iff (by omega)]
      constructor
      · intro image
        have bounds := capital_of_lowerRuns found (by omega) (by omega)
        exact absurd ⟨bounds.1, bounds.2.1⟩ capital
      · intro same
        rw [lowerRuns_small c.toNat (by omega) (by omega)] at found
        cases found

/-! ## Lower-case forms -/

/-- The lower-case form of a code point is a small ASCII letter other than `k` for the two ASCII
letters only. -/
theorem lowerPoint_eq_singleton_iff {point letter : CodePoint}
    (own : letter.isOwnLetter = true) :
    lowerPoint point = [letter] ↔ Content.asciiLower point = letter := by
  cases letter with
  | half offset => cases own
  | char letter =>
    have own : 97 ≤ letter.toNat ∧ letter.toNat ≤ 122 ∧ letter.toNat ≠ 107 := by
      simpa [CodePoint.isOwnLetter, and_assoc] using own
    cases point with
    | half offset => simp [lowerPoint, Content.asciiLower]
    | char c =>
      rw [Content.asciiLower, CodePoint.char.injEq, ← lowerRuns_eq_iff own, lowerPoint]
      by_cases dotted : c.toNat = 0x130
      · have unmapped : lowerRuns.findSome? (·.map? 0x130) = none := by decide +kernel
        rw [if_pos dotted, dotted, unmapped]
        refine iff_of_false (fun same => ?_) fun same => ?_
        · cases (List.cons.inj same).2
        · obtain rfl : c = letter := same
          omega
      · rw [if_neg dotted, List.cons.injEq, CodePoint.char.injEq, and_iff_left rfl]

/-- The lower-case form of a code point is one code point, or two of which the second is no letter.
-/
theorem lowerPoint_cases (point : CodePoint) :
    ∃ first rest, lowerPoint point = first :: rest ∧
      (rest = [] ∨ ∃ last, rest = [last] ∧ last.isOwnLetter = false) := by
  cases point with
  | half offset => exact ⟨_, _, rfl, .inl rfl⟩
  | char c =>
    rw [lowerPoint]
    split
    · exact ⟨_, _, rfl, .inr ⟨_, rfl, by decide⟩⟩
    · exact ⟨_, _, rfl, .inl rfl⟩

/-- Within a text, the lower-case form of a code point is a small ASCII letter other than `k` for
the two ASCII letters only. A sigma has another form at the end of a word, but none of its forms is
an ASCII letter. -/
theorem lowerBetween_eq_singleton_iff {before after : Text} {point letter : CodePoint}
    (own : letter.isOwnLetter = true) :
    lowerBetween before point after = [letter] ↔ Content.asciiLower point = letter := by
  rw [lowerBetween]
  split
  next sigma =>
    refine iff_of_false (fun same => ?_) fun same => ?_
    · rw [← (List.cons.inj same).1] at own
      exact absurd own (by decide)
    · rw [← same, sigma.1] at own
      exact absurd own (by decide)
  next => exact lowerPoint_eq_singleton_iff own

/-- Within a text, the lower-case form of a code point is one code point, or two of which the second
is no letter. -/
theorem lowerBetween_cases (before : Text) (point : CodePoint) (after : Text) :
    ∃ first rest, lowerBetween before point after = first :: rest ∧
      (rest = [] ∨ ∃ last, rest = [last] ∧ last.isOwnLetter = false) := by
  rw [lowerBetween]
  split
  next => exact ⟨_, _, rfl, .inl rfl⟩
  next => exact lowerPoint_cases point

/-- The texts with a word as their lower-case form, wherever they stand, are its spellings in ASCII
letters, when the word is made of small ASCII letters other than `k`. -/
theorem lowerAfter_eq_iff {word : Text} (own : word.all CodePoint.isOwnLetter = true)
    (before text : Text) :
    lowerAfter before text = word ↔ text.map Content.asciiLower = word := by
  -- Every code point stands before the rest, so what stands before the text varies.
  induction text generalizing before word with
  | nil => rfl
  | cons point text ih =>
    obtain ⟨first, rest, form, later⟩ := lowerBetween_cases before point text
    rw [lowerAfter, form, List.map_cons]
    cases word with
    | nil => exact iff_of_false nofun nofun
    | cons letter word =>
      rw [List.all_cons, Bool.and_eq_true] at own
      have head : lowerBetween before point text = [letter] ↔ Content.asciiLower point = letter :=
        lowerBetween_eq_singleton_iff own.1
      rw [form] at head
      rw [List.cons_append, List.cons.injEq, List.cons.injEq, ← head, List.cons.injEq, and_assoc]
      rcases later with rfl | ⟨last, rfl, other⟩
      · rw [List.nil_append, ih own.2]
        simp only [true_and]
      · -- The second code point of a form is in no word.
        refine iff_of_false ?_ fun same => by cases same.2.1
        rintro ⟨-, same⟩
        rw [← same, List.cons_append, List.all_cons, other, Bool.false_and] at own
        cases own.2

/-- The texts with a word as their lower-case form are its spellings in ASCII letters, when the word
is made of small ASCII letters other than `k`. -/
theorem lower_eq_iff {word : Text} (own : word.all CodePoint.isOwnLetter = true) (text : Text) :
    lower text = word ↔ text.map Content.asciiLower = word := lowerAfter_eq_iff own [] text

end Text

end SchemaDesk
