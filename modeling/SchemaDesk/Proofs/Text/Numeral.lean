import SchemaDesk.Proofs.Text.Separated
import SchemaDesk.Text.Numeral
/-!
# Two readings of an integer

The digits of a numeral stand one after another, with an underscore between two of them or not
(`Text.Numeral.Written`). The lenient reading skips zeros in front, which changes neither the number
nor the grammar, and drops a fraction, of which a numeral has none. So a text that is read as an
integer in the digits of any script, but has none besides ASCII digits, is read leniently as the
same integer (`Text.Numeral.lenientInt_of_int?`).
-/

namespace SchemaDesk.Text.Numeral

variable {value? other? : CodePoint → Option Nat} {point : CodePoint} {text : Text} {digit : Nat}
  {digits : List Nat}

/-! ## Digits -/

/-- An ASCII digit counts from zero on. -/
theorem asciiDigit?_eq_some_iff :
    asciiDigit? point = some digit ↔
      48 ≤ point.number ∧ point.number ≤ 57 ∧ digit = point.number - 48 := by
  rw [asciiDigit?, Option.ite_none_right_eq_some, Option.some.injEq, and_assoc, eq_comm]

/-- An ASCII digit has its value among the digits of all scripts. -/
theorem digit?_of_asciiDigit? (read : asciiDigit? point = some digit) :
    digit? point = some digit := by
  obtain ⟨low, high, rfl⟩ := asciiDigit?_eq_some_iff.mp read
  have first : zeros.find? (fun base => base ≤ point.number && point.number < base + 10) =
      some 0x30 := by
    have within : (decide (0x30 ≤ point.number) && decide (point.number < 0x30 + 10)) = true := by
      rw [Bool.and_eq_true, decide_eq_true_iff, decide_eq_true_iff]
      exact ⟨low, Nat.lt_succ_of_le high⟩
    exact List.find?_cons_of_pos within
  rw [digit?, first]
  rfl

/-- A digit is no white space. -/
theorem not_isWhiteSpace_of_asciiDigit? (read : (asciiDigit? point).isSome = true) :
    isWhiteSpace point = false := by
  obtain ⟨digit, read⟩ := Option.isSome_iff_exists.mp read
  obtain ⟨low, high, -⟩ := asciiDigit?_eq_some_iff.mp read
  have unblank : ∀ number < 58, 48 ≤ number → inRanges CodePoint.blankRanges number = false := by
    decide
  have inked : point.isBlank = false := unblank _ (Nat.lt_succ_of_le high) low
  rw [isWhiteSpace, inked, Bool.false_and]

/-! ## Numerals -/

/-- A text is written of digits: they follow each other, or two of them have an underscore between
them. -/
inductive Written (value? : CodePoint → Option Nat) : Text → List Nat → Prop where
  /-- A single digit. -/
  | one {point : CodePoint} {digit : Nat} : value? point = some digit →
      Written value? [point] [digit]
  /-- A digit in front of a numeral. -/
  | next {point : CodePoint} {digit : Nat} {rest : Text} {digits : List Nat} :
      value? point = some digit → Written value? rest digits →
      Written value? (point :: rest) (digit :: digits)
  /-- A digit in front of a numeral, and an underscore between them. -/
  | apart {point : CodePoint} {digit : Nat} {rest : Text} {digits : List Nat} :
      value? point = some digit → Written value? rest digits →
      Written value? (point :: .char '_' :: rest) (digit :: digits)

namespace Written

/-- A numeral begins with a digit. -/
theorem head (written : Written value? text digits) :
    ∃ point rest, text = point :: rest ∧ (value? point).isSome = true := by
  cases written with
  | one read => exact ⟨_, _, rfl, Option.isSome_of_eq_some read⟩
  | next read _ => exact ⟨_, _, rfl, Option.isSome_of_eq_some read⟩
  | apart read _ => exact ⟨_, _, rfl, Option.isSome_of_eq_some read⟩

/-- A numeral holds digits and underscores only. -/
theorem mem (written : Written value? text digits) :
    ∀ point ∈ text, (value? point).isSome = true ∨ point = .char '_' := by
  induction written with
  | one read =>
    rw [List.forall_mem_singleton]
    exact .inl (Option.isSome_of_eq_some read)
  | next read _ ih =>
    rw [List.forall_mem_cons]
    exact ⟨.inl (Option.isSome_of_eq_some read), ih⟩
  | apart read _ ih =>
    rw [List.forall_mem_cons, List.forall_mem_cons]
    exact ⟨.inl (Option.isSome_of_eq_some read), .inr rfl, ih⟩

/-- A numeral is one in other digits that have the same values. -/
theorem of_same (written : Written value? text digits)
    (same : ∀ point ∈ text, ∀ digit, value? point = some digit → other? point = some digit) :
    Written other? text digits := by
  induction written with
  | one read => exact .one (same _ List.mem_cons_self _ read)
  | next read _ ih =>
    rw [List.forall_mem_cons] at same
    exact .next (same.1 _ read) (ih same.2)
  | apart read _ ih =>
    rw [List.forall_mem_cons, List.forall_mem_cons] at same
    exact .apart (same.1 _ read) (ih same.2.2)

/-- A numeral has as many digits as it is written of. -/
theorem countP (written : Written value? text digits) (underscore : value? (.char '_') = none) :
    text.countP (fun point => (value? point).isSome) = digits.length := by
  induction written with
  | one read => simp [read]
  | next read _ ih => simp [read, ih]
  | apart read _ ih => simp [read, underscore, ih]

end Written

/-- What is read of digits is written of them. -/
theorem written_of_digits? (read : digits? value? text = some digits) :
    Written value? text digits := by
  induction text using digits?.induct generalizing digits with
  | case1 => cases read
  | case2 point =>
    obtain ⟨digit, first, rfl⟩ := Option.map_eq_some_iff.mp read
    exact .one first
  | case3 point next rest later nextLater =>
    rw [digits?] at read
    obtain ⟨digit, first, others⟩ := Option.bind_eq_some_iff.mp read
    by_cases underscore : next = .char '_'
    · subst underscore
      rw [if_pos rfl] at others
      match rest with
      | [] => cases others
      | _ :: _ =>
        obtain ⟨after, more, same⟩ := Option.bind_eq_some_iff.mp others
        obtain rfl := Option.some.inj same
        exact .apart first (later more)
    · rw [if_neg underscore] at others
      obtain ⟨after, more, same⟩ := Option.bind_eq_some_iff.mp others
      obtain rfl := Option.some.inj same
      exact .next first (nextLater more)

/-- What is written of digits is read as them. -/
theorem Written.read (written : Written value? text digits)
    (underscore : value? (.char '_') = none) : digits? value? text = some digits := by
  induction written with
  | one read => rw [digits?, read, Option.map_some]
  | @next _ digit rest digits read later ih =>
    obtain ⟨next, more, rfl, isDigit⟩ := later.head
    have other : next ≠ .char '_' := by
      rintro rfl
      rw [underscore] at isDigit
      cases isDigit
    rw [digits?, read, Option.bind_eq_bind, Option.bind_some, if_neg other, ih]
    rfl
  | @apart _ digit rest digits read later ih =>
    obtain ⟨next, more, rfl, -⟩ := later.head
    rw [digits?, read, Option.bind_eq_bind, Option.bind_some, if_pos rfl, ih]
    rfl

/-! ## Zeros in front -/

/-- A text is written of digits that stand for the same number as others, and are no more. -/
def Shortens (text : Text) (digits : List Nat) : Prop :=
  ∃ fewer, Written asciiDigit? text fewer ∧ ofDigits fewer = ofDigits digits ∧
    fewer.length ≤ digits.length

/-- A text that is written of digits is written of no more than these. -/
theorem Written.shortens (written : Written asciiDigit? text digits) : Shortens text digits :=
  ⟨digits, written, rfl, le_rfl⟩

/-- A zero in front counts nothing. -/
theorem Shortens.zero (shorter : Shortens text digits) : Shortens text (0 :: digits) := by
  obtain ⟨fewer, written, same, length⟩ := shorter
  have front : ofDigits (0 :: digits) = ofDigits digits := rfl
  exact ⟨fewer, written, same.trans front.symm, Nat.le_succ_of_le length⟩

/-- After a zero, a numeral is left without the zeros in front of it. -/
theorem Written.afterZero_eq (written : Written asciiDigit? text digits) (last : CodePoint) :
    afterZero last text = withoutZeros text := by
  obtain ⟨point, rest, rfl, isDigit⟩ := written.head
  by_cases zero : point = .char '0'
  · rw [afterZero, if_pos (.inl zero), withoutZeros, if_pos zero, zero]
  · have underscore : point ≠ .char '_' := by
      rintro rfl
      cases isDigit
    have dot : point ≠ .char '.' := by
      rintro rfl
      cases isDigit
    rw [afterZero, if_neg (not_or.mpr ⟨zero, underscore⟩), if_neg dot, withoutZeros, if_neg zero]

/-- Without the zeros in front, a numeral stands for the same number in no more digits. -/
theorem Written.shortens_withoutZeros (written : Written asciiDigit? text digits) :
    Shortens (withoutZeros text) digits := by
  have kept {point : CodePoint} {rest : Text} (other : point ≠ .char '0') :
      withoutZeros (point :: rest) = point :: rest := if_neg other
  have zeroValue {digit : Nat} (read : asciiDigit? (.char '0') = some digit) : digit = 0 :=
    (Option.some.inj read).symm
  induction written with
  | @one point digit read =>
    by_cases zero : point = .char '0'
    · subst zero
      exact (Written.one read).shortens
    · rw [kept zero]
      exact (Written.one read).shortens
  | @next point digit rest digits read later ih =>
    by_cases zero : point = .char '0'
    · subst zero
      have skipped : withoutZeros (.char '0' :: rest) = withoutZeros rest := by
        rw [← later.afterZero_eq (.char '0')]
        rfl
      rw [skipped, zeroValue read]
      exact ih.zero
    · rw [kept zero]
      exact (Written.next read later).shortens
  | @apart point digit rest digits read later ih =>
    by_cases zero : point = .char '0'
    · subst zero
      have skipped : withoutZeros (.char '0' :: .char '_' :: rest) = withoutZeros rest := by
        rw [← later.afterZero_eq (.char '_')]
        rfl
      rw [skipped, zeroValue read]
      exact ih.zero
    · rw [kept zero]
      exact (Written.apart read later).shortens

/-- A numeral has no fraction. -/
theorem Written.withoutFraction_eq (written : Written asciiDigit? text digits) :
    withoutFraction text = text := by
  have whole : CodePoint.char '.' ∉ text := by
    intro here
    rcases written.mem _ here with dot | dot
    · cases dot
    · cases dot
  rw [withoutFraction, cutFirst_eq_none_iff.mpr whole]

/-! ## Signs and padding -/

/-- A sign is no digit. -/
theorem sign_eq (text : Text) :
    ∃ front, text = front ++ (sign text).2 ∧ ∀ point ∈ front, asciiDigit? point = none := by
  unfold sign
  split
  · exact ⟨[.char '-'], rfl, by decide⟩
  · exact ⟨[.char '+'], rfl, by decide⟩
  · exact ⟨[], rfl, nofun⟩

/-- The white space around a text holds no digit. -/
theorem unpadded_eq (text : Text) :
    ∃ before after, text = before ++ unpadded text ++ after ∧
      ∀ point ∈ before ++ after, asciiDigit? point = none := by
  let inner := text.dropWhile isWhiteSpace
  have blank {point : CodePoint} {padding : Text}
      (mem : point ∈ padding.takeWhile isWhiteSpace) : asciiDigit? point = none := by
    by_contra isDigit
    have white : isWhiteSpace point = true := List.all_eq_true.mp List.all_takeWhile point mem
    rw [not_isWhiteSpace_of_asciiDigit? (Option.isSome_iff_ne_none.mpr isDigit)] at white
    cases white
  have back : inner = unpadded text ++ (inner.reverse.takeWhile isWhiteSpace).reverse := by
    rw [unpadded, ← List.reverse_append, List.takeWhile_append_dropWhile, List.reverse_reverse]
  refine ⟨text.takeWhile isWhiteSpace, (inner.reverse.takeWhile isWhiteSpace).reverse, ?_, ?_⟩
  · rw [List.append_assoc, ← back, List.takeWhile_append_dropWhile]
  · intro point mem
    rcases List.mem_append.mp mem with early | late
    · exact blank early
    · exact blank (List.mem_reverse.mp late)

/-- What stands around an unsigned numeral holds no digit. -/
theorem unsigned_eq (text : Text) :
    ∃ before after, text = before ++ (sign (unpadded text)).2 ++ after ∧
      ∀ point ∈ before ++ after, asciiDigit? point = none := by
  obtain ⟨before, after, padded, blank⟩ := unpadded_eq text
  obtain ⟨front, signed, bare⟩ := sign_eq (unpadded text)
  refine ⟨before ++ front, after, ?_, fun point mem => ?_⟩
  · rw [List.append_assoc before front, ← signed]
    exact padded
  · rw [List.append_assoc, List.mem_append, List.mem_append] at mem
    rcases mem with early | inFront | late
    · exact blank point (List.mem_append_left _ early)
    · exact bare point inFront
    · exact blank point (List.mem_append_right _ late)

/-- A text does not begin with more digits than it holds. -/
theorem isOversized_eq_false
    (few : text.countP (fun point => (asciiDigit? point).isSome) ≤ maxDigits) :
    isOversized text = false := by
  let isDigit : CodePoint → Bool := fun point => (asciiDigit? point).isSome
  have run (unsigned : Text) (fewer : unsigned.countP isDigit ≤ maxDigits) :
      ¬ (unsigned.takeWhile isDigit).length > maxDigits := by
    have all : (unsigned.takeWhile isDigit).countP isDigit =
        (unsigned.takeWhile isDigit).length :=
      List.countP_eq_length.mpr (List.all_eq_true.mp List.all_takeWhile)
    have sublist : (unsigned.takeWhile isDigit).countP isDigit ≤ unsigned.countP isDigit :=
      (List.takeWhile_sublist _).countP_le
    omega
  rw [isOversized, Bool.and_eq_false_iff, decide_eq_false_iff_not]
  refine .inr ?_
  split
  · exact run text.tail ((List.countP_tail_le text).trans few)
  · exact run text few

/-! ## Both readings -/

/-- A text that is read as an integer in the digits of any script is read leniently as the same
integer, when its digits are ASCII digits. -/
theorem lenientInt_of_int? {value : Int} (read : int? text = some value)
    (ascii : ∀ point ∈ text, (digit? point).isSome = true → (asciiDigit? point).isSome = true) :
    lenientInt text = .ok value := by
  obtain ⟨before, after, whole, bare⟩ := unsigned_eq text
  have opened : int? text = (digits? digit? (sign (unpadded text)).2).bind fun digits =>
      if digits.length ≤ maxDigits then some (toInt (sign (unpadded text)).1 digits)
      else none := rfl
  rw [opened] at read
  obtain ⟨digits, given, counted⟩ := Option.bind_eq_some_iff.mp read
  obtain ⟨few, same⟩ := Option.ite_none_right_eq_some.mp counted
  have written : Written asciiDigit? (sign (unpadded text)).2 digits := by
    refine (written_of_digits? given).of_same fun point mem digit valued => ?_
    have here : point ∈ text := by
      rw [whole]
      exact List.mem_append_left _ (List.mem_append_right _ mem)
    obtain ⟨other, own⟩ := Option.isSome_iff_exists.mp
      (ascii point here (Option.isSome_of_eq_some valued))
    rw [digit?_of_asciiDigit? own] at valued
    rw [own, valued]
  have undigited : (before ++ after).countP (fun point => (asciiDigit? point).isSome) = 0 := by
    refine List.countP_eq_zero.mpr fun point mem => ?_
    rw [bare point mem]
    exact Bool.false_ne_true
  have total : text.countP (fun point => (asciiDigit? point).isSome) = digits.length := by
    rw [List.countP_append] at undigited
    rw [whole, List.countP_append, List.countP_append, written.countP rfl]
    omega
  have fits : isOversized text = false := isOversized_eq_false (total.trans_le few)
  obtain ⟨fewer, shorter, number, length⟩ := written.shortens_withoutZeros
  have left : digits? asciiDigit? (withoutFraction (withoutZeros (sign (unpadded text)).2)) =
      some fewer := by
    rw [shorter.withoutFraction_eq]
    exact shorter.read rfl
  rw [lenientInt, fits, if_neg Bool.false_ne_true]
  simp only [left, if_pos (length.trans few)]
  rw [← Option.some.inj same, toInt, toInt, number]

end SchemaDesk.Text.Numeral
