import SchemaDesk.Text.Basic

/-!
# Tables

A table keeps values under distinct keys, in the order in which the keys came in. Putting a value
under a key that is there keeps its place; a key that is not there goes to the end.
-/

namespace SchemaDesk

/-- Values under distinct keys, in the order in which the keys came in. -/
structure Table (α : Type) where
  /-- The keys and their values. -/
  entries : List (Text × α)
  /-- No key comes twice. -/
  distinct : (entries.map Prod.fst).Nodup

namespace Table

variable {α : Type}

/-- The table without values. -/
def empty : Table α := ⟨[], List.nodup_nil⟩

/-- A table may be empty. -/
instance : Inhabited (Table α) := ⟨empty⟩

/-- The keys in order. -/
def keys (table : Table α) : List Text := table.entries.map Prod.fst

/-- The number of values. -/
def size (table : Table α) : Nat := table.entries.length

/-- The value under a key. -/
def find? (table : Table α) (key : Text) : Option α :=
  (table.entries.find? (·.1 == key)).map Prod.snd

/-- Whether a key is there. -/
def contains (table : Table α) (key : Text) : Bool := table.keys.contains key

/-- The entries with the value under a key replaced. -/
def replace (key : Text) (value : α) (entries : List (Text × α)) : List (Text × α) :=
  entries.map fun entry => if entry.1 = key then (key, value) else entry

/-- Replacing a value keeps the keys. -/
theorem keys_replace (key : Text) (value : α) (entries : List (Text × α)) :
    (replace key value entries).map Prod.fst = entries.map Prod.fst := by
  simp only [replace, List.map_map, List.map_inj_left, Function.comp_apply]
  intro entry _
  split <;> simp [*]

/-- The table with a value put under a key. -/
def put (table : Table α) (key : Text) (value : α) : Table α :=
  if known : key ∈ table.keys then
    ⟨replace key value table.entries, by rw [keys_replace]; exact table.distinct⟩
  else
    ⟨table.entries ++ [(key, value)], by
      have fresh : ∀ other ∈ table.entries.map Prod.fst, key ≠ other := fun other mem same =>
        known (same ▸ mem)
      simp only [List.map_append, List.map_cons, List.map_nil]
      exact List.nodup_append.mpr ⟨table.distinct, by simp, fun a left b right => by
        have : b = key := by simpa using right
        exact this ▸ (fresh a left).symm⟩⟩

/-- The table without a key. -/
def erase (table : Table α) (key : Text) : Table α :=
  ⟨table.entries.filter (·.1 != key),
    table.distinct.sublist (List.filter_sublist.map Prod.fst)⟩

/-- The oldest key. -/
def oldest? (table : Table α) : Option Text := table.keys.head?

/-- Erasing keeps the other keys in order. -/
@[simp]
theorem keys_erase (table : Table α) (key : Text) :
    (table.erase key).keys = table.keys.filter (· != key) := by
  simp [erase, keys, List.filter_map, Function.comp_def]

/-- Putting a value under a key that is there keeps the keys. -/
theorem keys_put_of_mem {table : Table α} {key : Text} (known : key ∈ table.keys) (value : α) :
    (table.put key value).keys = table.keys := by
  rw [put, dif_pos known]
  exact keys_replace key value table.entries

/-- Putting a value under a new key adds the key at the end. -/
theorem keys_put_of_notMem {table : Table α} {key : Text} (new : key ∉ table.keys) (value : α) :
    (table.put key value).keys = table.keys ++ [key] := by
  rw [put, dif_neg new]
  simp [keys]

/-- A value is found exactly under the keys. -/
theorem isSome_find? {table : Table α} {key : Text} :
    (table.find? key).isSome ↔ key ∈ table.keys := by
  simp [find?, keys, List.find?_isSome]

/-- Erasing a key loses its value only. -/
theorem find?_erase (table : Table α) (key other : Text) :
    (table.erase key).find? other = if other = key then none else table.find? other := by
  by_cases same : other = key
  · simp only [same, if_true]
    rw [← Option.not_isSome_iff_eq_none, isSome_find?]
    simp
  · simp only [find?, erase, same, if_false, List.find?_filter]
    congr 2
    funext entry
    by_cases here : entry.1 = other <;> simp [here, same]

/-- A value put under a key is found there, and no other value changes. -/
theorem find?_put (table : Table α) (key other : Text) (value : α) :
    (table.put key value).find? other = if other = key then some value else table.find? other := by
  by_cases known : key ∈ table.keys
  · simp only [put, known, dite_true, find?, replace]
    have present : ∃ entry ∈ table.entries, entry.1 = key := by simpa [keys] using known
    generalize table.entries = entries at present
    induction entries with
    | nil => simp at present
    | cons entry rest ih =>
      by_cases here : entry.1 = key
      · by_cases same : other = key
        · simp [here, same]
        · have apart : (key == other) = false := by simpa using fun eq => same eq.symm
          simp only [List.map_cons, here, if_true, List.find?_cons, apart, same, if_false]
          by_cases more : ∃ entry ∈ rest, entry.1 = key
          · simpa [same] using ih more
          · have untouched : rest.map (fun entry => if entry.1 = key then (key, value) else entry)
                = rest := by
              conv => rhs; rw [← List.map_id rest]
              apply List.map_congr_left
              intro entry mem
              have : entry.1 ≠ key := fun eq => more ⟨entry, mem, eq⟩
              simp [this]
            rw [untouched]
      · have more : ∃ entry ∈ rest, entry.1 = key := by
          obtain ⟨found, mem, eq⟩ := present
          rcases List.mem_cons.mp mem with rfl | mem
          · exact absurd eq here
          · exact ⟨found, mem, eq⟩
        by_cases same : other = key
        · subst same
          simpa [here] using ih more
        · by_cases hit : entry.1 = other
          · subst hit
            simp [here]
          · simpa [here, hit, same] using ih more
  · simp only [put, known, dite_false, find?, List.find?_append]
    by_cases same : other = key
    · subst same
      have gone : table.entries.find? (·.1 == other) = none := by
        rw [List.find?_eq_none]
        intro entry mem hit
        have same : entry.1 = other := by simpa using hit
        exact known (by simpa [keys] using ⟨entry.2, by simpa [← same] using mem⟩)
      simp [gone]
    · have apart : (key == other) = false := by simpa using fun eq => same eq.symm
      simp [same, apart]

end Table

end SchemaDesk
