import SchemaDesk.Proofs.Draws.Fresh
/-!
# The search for a fresh identifier

A fresh identifier is searched for by drawing until a token comes that is not taken. Said without a
bound, this is a relation between a source and what a search from it draws and ends with
(`Draws.Search`); nothing in it makes a search end. A search that ends has drawn the tokens up to
the first one that is not taken, and no more (`Draws.search_iff`). That there is such a token within
the queue and one more than the different identifiers taken is a matter of counting
(`Draws.exists_token_notMem`), so every search ends, and the bounded search gives what it ends with
(`Draws.fresh_search`).
-/

namespace SchemaDesk.Draws

variable {taken : List Text}

/-- A search for an identifier that is not taken, with the number of tokens that it draws and the
identifier and the source that it ends with. -/
inductive Search (taken : List Text) : Draws → Nat → Text × Draws → Prop where
  /-- The next token is not taken. -/
  | found {draws : Draws} (free : draws.next.1 ∉ taken) : Search taken draws 1 draws.next
  /-- The next token is taken, and the search goes on after it. -/
  | again {draws : Draws} {count : Nat} {result : Text × Draws} (hit : draws.next.1 ∈ taken)
      (rest : Search taken draws.next.2 count result) : Search taken draws (count + 1) result

/-- The tokens that a search has drawn: the first one that is not taken, and those before it. -/
structure StopsAt (taken : List Text) (draws : Draws) (index : Nat) : Prop where
  /-- The last token is not taken. -/
  free : draws.token index ∉ taken
  /-- The tokens before it are taken. -/
  before : ∀ earlier < index, draws.token earlier ∈ taken

/-- Only one token is the first one that is not taken. -/
theorem StopsAt.unique {draws : Draws} {index other : Nat} (stops : StopsAt taken draws index)
    (alsoStops : StopsAt taken draws other) : index = other := by
  have notLess : ¬ index < other := fun less => stops.free (alsoStops.before index less)
  have notMore : ¬ other < index := fun more => alsoStops.free (stops.before other more)
  omega

/-- The first token ends a search when it is not taken. -/
theorem stopsAt_zero_iff {draws : Draws} : StopsAt taken draws 0 ↔ draws.next.1 ∉ taken := by
  rw [next_eq]
  constructor
  · exact fun stops => stops.free
  · exact fun free => ⟨free, fun earlier less => absurd less (Nat.not_lt_zero earlier)⟩

/-- A later token ends a search when the first one is taken and it ends the search after that. -/
theorem stopsAt_succ_iff {draws : Draws} {index : Nat} :
    StopsAt taken draws (index + 1) ↔
      draws.next.1 ∈ taken ∧ StopsAt taken draws.next.2 index := by
  have shifted : ∀ place, (draws.after 1).token place = draws.token (place + 1) := by
    intro place
    rw [token_after, Nat.add_comm]
  rw [next_eq]
  constructor
  · intro stops
    have first : draws.token 0 ∈ taken := stops.before 0 (Nat.succ_pos index)
    refine ⟨first, ?_, fun earlier less => ?_⟩
    · rw [shifted]
      exact stops.free
    · rw [shifted]
      exact stops.before (earlier + 1) (by omega)
  · rintro ⟨first, later⟩
    refine ⟨shifted index ▸ later.free, fun earlier less => ?_⟩
    cases earlier with
    | zero => exact first
    | succ earlier =>
      have hit := later.before earlier (by omega)
      rwa [shifted] at hit

/-- A search draws the tokens up to the first one that is not taken and ends with it, and with the
source after it. -/
theorem search_iff {draws : Draws} {count : Nat} {result : Text × Draws} :
    Search taken draws count result ↔ ∃ index, StopsAt taken draws index ∧ count = index + 1 ∧
      result = (draws.token index, draws.after (index + 1)) := by
  constructor
  · intro search
    induction search with
    | @found draws free => exact ⟨0, stopsAt_zero_iff.mpr free, rfl, draws.next_eq⟩
    | @again draws count result hit rest ih =>
      obtain ⟨index, stops, rfl, rfl⟩ := ih
      have place : 1 + (index + 1) = index + 1 + 1 := by omega
      refine ⟨index + 1, stopsAt_succ_iff.mpr ⟨hit, stops⟩, rfl, ?_⟩
      rw [next_eq, token_after, after_after, Nat.add_comm 1 index, place]
  · rintro ⟨index, stops, rfl, rfl⟩
    -- The search passes over one token after another, so the source varies with the place.
    induction index generalizing draws with
    | zero =>
      have free : draws.next.1 ∉ taken := stopsAt_zero_iff.mp stops
      have search : Search taken draws 1 draws.next := .found free
      rwa [next_eq] at search
    | succ index ih =>
      obtain ⟨hit, later⟩ := stopsAt_succ_iff.mp stops
      have rest := ih later
      have place : 1 + (index + 1) = index + 1 + 1 := by omega
      rw [next_eq, token_after, after_after, Nat.add_comm 1 index, place] at rest
      have search := Search.again hit (next_eq draws ▸ rest)
      exact search

/-- Every search for a fresh identifier ends, whatever is taken and whatever the queue holds. It
draws no more tokens than are queued and one more than there are different identifiers taken. What
it ends with is the fresh identifier, which is the first token that is not taken, and the source
after this token; no search ends otherwise. -/
theorem fresh_search (taken : List Text) (draws : Draws) :
    ∃ index, index + 1 ≤ draws.queued.length + taken.dedup.length + 1 ∧
      draws.fresh taken = (draws.token index, draws.after (index + 1)) ∧
      StopsAt taken draws index ∧
      ∀ count result, Search taken draws count result ↔
        count = index + 1 ∧ result = draws.fresh taken := by
  obtain ⟨index, bound, free, before, found⟩ := fresh_eq taken draws
  have stops : StopsAt taken draws index := ⟨free, before⟩
  refine ⟨index, by omega, found, stops, fun count result => ?_⟩
  rw [search_iff]
  constructor
  · rintro ⟨other, alsoStops, rfl, rfl⟩
    obtain rfl : other = index := alsoStops.unique stops
    exact ⟨rfl, found.symm⟩
  · rintro ⟨rfl, rfl⟩
    exact ⟨index, stops, rfl, found⟩

/-- The bound is reached where the queue holds the numbered token that is taken. -/
example : (Draws.mk [numbered 2] 0).fresh [numbered 2] = (numbered 3, ⟨[], 3⟩) := by decide

end SchemaDesk.Draws
