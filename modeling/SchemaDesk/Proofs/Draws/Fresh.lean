import Mathlib.Data.List.Perm.Subperm
import Mathlib.Data.List.Dedup
import SchemaDesk.Draws
/-!
# Fresh identifiers

The tokens of a source form one sequence: the queue, and then the numbered tokens, which are all
different. Among the first tokens, as many as are queued and one more than there are different
identifiers taken, one is not taken. So the bounded search finds the first token that is not taken,
and draws no further. A computation that draws gives values with a property when each of its steps
does, whatever is drawn (`Drawing.Gives`).
-/

namespace SchemaDesk

namespace Text

/-- The value of a hexadecimal digit. -/
def digitValue (digit : CodePoint) : Nat :=
  ((ofString "0123456789abcdef").idxOf digit)

/-- The number that hexadecimal digits write. -/
def hexValue (digits : Text) : Nat :=
  digits.foldl (fun value digit => 16 * value + digitValue digit) 0

/-- The character of a digit has the value of the digit. -/
theorem digitValue_digitChar {digit : Nat} (small : digit < 16) :
    digitValue (.char digit.digitChar) = digit := by
  revert digit
  decide

/-- One more digit counts for itself, and the digits before it sixteenfold. -/
theorem hexValue_concat (digits : Text) (digit : CodePoint) :
    hexValue (digits ++ [digit]) = 16 * hexValue digits + digitValue digit := by
  simp [hexValue]

/-- The digits of a number have the number as their value. -/
theorem hexValue_toDigits (number : Nat) :
    hexValue ((Nat.toDigits 16 number).map .char) = number := by
  induction number using Nat.strongRecOn with
  | ind number ih =>
    rw [Nat.toDigits_eq_if (by decide)]
    split
    · next small => simpa [hexValue] using digitValue_digitChar small
    · next large =>
      rw [List.map_append, List.map_singleton, hexValue_concat,
        ih (number / 16) (Nat.div_lt_self (by omega) (by decide)),
        digitValue_digitChar (Nat.mod_lt _ (by decide))]
      omega

/-- Numbers with the same digits are the same, whatever width they are filled to. -/
theorem hexDigits_injective (width : Nat) : Function.Injective (hexDigits width) := by
  have value : ∀ number, hexValue (hexDigits width number) = number := by
    intro number
    have zero : digitValue (.char '0') = 0 := by decide
    have filled : ∀ count : Nat, ((List.replicate count '0').map CodePoint.char).foldl
        (fun value digit => 16 * value + digitValue digit) 0 = 0 := by
      intro count
      induction count with
      | zero => rfl
      | succ count ih => simpa [List.replicate_succ, zero] using ih
    rw [hexDigits, List.map_append, hexValue, List.foldl_append, filled]
    exact hexValue_toDigits number
  exact Function.LeftInverse.injective value

end Text

namespace Draws

/-- The token at a place in the sequence of tokens to come. -/
def token (draws : Draws) (index : Nat) : Text :=
  draws.queued[index]?.getD (numbered (draws.drawn + index + 1))

/-- The source after some draws. -/
def after (draws : Draws) (count : Nat) : Draws := ⟨draws.queued.drop count, draws.drawn + count⟩

/-- A draw takes the first token of the sequence. -/
theorem next_eq (draws : Draws) : draws.next = (draws.token 0, draws.after 1) := by
  obtain ⟨queued, drawn⟩ := draws
  cases queued <;> rfl

/-- The tokens after some draws are those further on. -/
theorem token_after (draws : Draws) (count index : Nat) :
    (draws.after count).token index = draws.token (count + index) := by
  simp only [token, after, List.getElem?_drop]
  congr 2
  omega

/-- Draws after draws are counted together. -/
theorem after_after (draws : Draws) (count more : Nat) :
    (draws.after count).after more = draws.after (count + more) := by
  simp only [after, List.drop_drop, Nat.add_assoc]

/-- Some token among the queued ones and one more than the different identifiers taken is not
taken. -/
theorem exists_token_notMem (taken : List Text) (draws : Draws) :
    ∃ index ≤ draws.queued.length + taken.dedup.length, draws.token index ∉ taken := by
  by_contra all
  simp only [not_exists, not_and, not_not] at all
  -- The numbered tokens would be more different identifiers than are taken.
  let later := (List.range (taken.dedup.length + 1)).map fun index =>
    numbered (draws.drawn + draws.queued.length + index + 1)
  have different : later.Nodup := by
    refine List.Nodup.map ?_ List.nodup_range
    intro left right same
    have := Text.hexDigits_injective 32 same
    omega
  have within : later ⊆ taken.dedup := by
    intro identifier mem
    obtain ⟨index, bound, rfl⟩ := List.mem_map.mp mem
    have small : index < taken.dedup.length + 1 := List.mem_range.mp bound
    have hit := all (draws.queued.length + index) (by omega)
    rw [token, List.getElem?_eq_none (by omega), Option.getD_none, ← Nat.add_assoc] at hit
    exact List.mem_dedup.mpr hit
  have count := (List.subperm_of_subset different within).length_le
  simp only [later, List.length_map, List.length_range] at count
  omega

/-- With one more try the next token is drawn, and the search goes on when it is taken. -/
theorem freshWithin_succ (taken : List Text) (tries : Nat) (draws : Draws) :
    freshWithin taken (tries + 1) draws =
      if draws.next.1 ∈ taken then freshWithin taken tries draws.next.2 else draws.next := rfl

/-- The search draws the tokens that are taken, and ends with the first one that is not. -/
theorem freshWithin_eq {taken : List Text} {tries : Nat} {draws : Draws}
    (free : ∃ index ≤ tries, draws.token index ∉ taken) :
    ∃ index ≤ tries, draws.token index ∉ taken ∧ (∀ earlier < index, draws.token earlier ∈ taken) ∧
      freshWithin taken tries draws = (draws.token index, draws.after (index + 1)) := by
  induction tries generalizing draws with
  | zero =>
    obtain ⟨index, bound, notTaken⟩ := free
    obtain rfl : index = 0 := Nat.le_zero.mp bound
    exact ⟨0, Nat.le_refl 0, notTaken, by simp, draws.next_eq⟩
  | succ tries ih =>
    by_cases first : draws.token 0 ∈ taken
    · have later : ∃ index ≤ tries, (draws.after 1).token index ∉ taken := by
        obtain ⟨index, bound, notTaken⟩ := free
        cases index with
        | zero => exact absurd first notTaken
        | succ index =>
          refine ⟨index, by omega, ?_⟩
          rwa [token_after, Nat.add_comm]
      obtain ⟨index, bound, notTaken, before, found⟩ := ih later
      refine ⟨index + 1, by omega, ?_, ?_, ?_⟩
      · rwa [token_after, Nat.add_comm] at notTaken
      · intro earlier less
        cases earlier with
        | zero => exact first
        | succ earlier =>
          have := before earlier (by omega)
          rwa [token_after, Nat.add_comm] at this
      · rw [freshWithin_succ, next_eq, if_pos first, found, token_after, after_after]
        congr 2 <;> omega
    · refine ⟨0, Nat.zero_le _, first, by simp, ?_⟩
      rw [freshWithin_succ, next_eq, if_neg first]

/-- A fresh identifier is the first token that is not taken, and no token after it is drawn. -/
theorem fresh_eq (taken : List Text) (draws : Draws) :
    ∃ index ≤ draws.queued.length + taken.dedup.length, draws.token index ∉ taken ∧
      (∀ earlier < index, draws.token earlier ∈ taken) ∧
      draws.fresh taken = (draws.token index, draws.after (index + 1)) := by
  obtain ⟨untaken, bound, notTaken⟩ := exists_token_notMem taken draws
  have fewer : taken.dedup.length ≤ taken.length := (List.dedup_sublist taken).length_le
  obtain ⟨index, -, free, before, found⟩ := freshWithin_eq
    ⟨untaken, (by omega : untaken ≤ draws.queued.length + taken.length), notTaken⟩
  refine ⟨index, ?_, free, before, found⟩
  by_contra beyond
  exact notTaken (before untaken (by omega))

/-- A fresh identifier is not taken. -/
theorem fresh_notMem (taken : List Text) (draws : Draws) : (draws.fresh taken).1 ∉ taken := by
  obtain ⟨index, -, free, -, found⟩ := fresh_eq taken draws
  rwa [found]

end Draws

/-! ## Computations that draw -/

/-- Every value that a computation gives has a property, whatever it draws. -/
def Drawing.Gives {ε α : Type} (computation : Drawing ε α) (property : α → Prop) : Prop :=
  ∀ draws value, (computation.run.run draws).1 = .ok value → property value

namespace Drawing

variable {ε α β : Type} {property : α → Prop}

/-- A computation that draws nothing gives its value. -/
theorem gives_pure {value : α} (holds : property value) :
    (pure value : Drawing ε α).Gives property := by
  intro draws other same
  exact Except.ok.inj same ▸ holds

/-- A computation that fails gives nothing. -/
theorem gives_throw (reason : ε) (property : α → Prop) :
    (throw reason : Drawing ε α).Gives property := by
  intro draws value same
  cases same

/-- A computation that only hands on an outcome gives the value of the outcome. -/
theorem gives_mk {outcome : Except ε α} (holds : ∀ value, outcome = .ok value → property value) :
    Drawing.Gives (ExceptT.mk (pure outcome)) property :=
  fun _ => holds

/-- A computation after another goes on with its value and its source, or ends with its refusal. -/
theorem run_bind (first : Drawing ε α) (next : α → Drawing ε β) (draws : Draws) :
    (first >>= next).run.run draws =
      match first.run.run draws with
      | (.ok value, after) => (next value).run.run after
      | (.error reason, after) => (.error reason, after) := by
  simp only [ExceptT.run_bind, StateT.run_bind]
  match first.run.run draws with
  | (.ok value, after) => rfl
  | (.error reason, after) => rfl

/-- One computation after another gives what the second one gives. -/
theorem Gives.bind {first : Drawing ε α} {next : α → Drawing ε β} {later : β → Prop}
    (early : first.Gives property) (late : ∀ value, property value → (next value).Gives later) :
    (first >>= next).Gives later := by
  intro draws value given
  rw [run_bind] at given
  have held := early draws
  match ran : first.run.run draws with
  | (.ok middle, after) =>
    rw [ran] at given held
    exact late middle (held middle rfl) after value given
  | (.error reason, after) =>
    rw [ran] at given
    cases given

/-- A fresh identifier is not taken. -/
theorem gives_freshId (taken : List Text) :
    (freshId taken : Drawing ε Text).Gives (· ∉ taken) := by
  intro draws id same
  obtain rfl : (draws.fresh taken).1 = id := Except.ok.inj same
  exact Draws.fresh_notMem taken draws

end Drawing

end SchemaDesk
