import SchemaDesk.CommandLine.OutputFile
import SchemaDesk.Proofs.Text.Separated
/-!
# Paths that lead to files

A relative path of plain names leads from the working folder to the file with the last of them, when
it is not too long and does not lead through too many folders (`OutputFile.locate_of_plain`). On the
way a path of plain names only goes down, so it comes through no folder twice.
-/

namespace SchemaDesk.CommandLine.OutputFile

/-- A name that a path may hold as a part, and that leads to the file or folder with this name. -/
structure Plain (name : Text) : Prop where
  /-- It is neither empty nor made of one dot or two. -/
  named : isName name = true
  /-- It holds only code points that names can hold. -/
  nameable : name.all isNameable = true
  /-- It does not hold the character that ends paths. -/
  unended : .char '\x00' ∉ name
  /-- It is one part. -/
  undivided : .char '/' ∉ name
  /-- It is not too long. -/
  short : size name ≤ maxPartSize

/-- Whether a name is plain is decided part by part. -/
instance (name : Text) : Decidable (Plain name) :=
  decidable_of_iff (isName name = true ∧ name.all isNameable = true ∧ .char '\x00' ∉ name ∧
      .char '/' ∉ name ∧ size name ≤ maxPartSize)
    ⟨fun ⟨named, nameable, unended, undivided, short⟩ =>
        ⟨named, nameable, unended, undivided, short⟩,
      fun plain => ⟨plain.named, plain.nameable, plain.unended, plain.undivided, plain.short⟩⟩

/-- The relative path of names. -/
def path (names : List Text) : Text := List.intercalate (Text.ofString "/") names

/-! ## Sizes -/

/-- Counting the bytes of a text goes on from any number of bytes. -/
theorem foldl_pointSize (text : Text) (bytes : Nat) :
    text.foldl (fun bytes point => bytes + pointSize point) bytes = bytes + size text := by
  induction text generalizing bytes with
  | nil => rfl
  | cons point text ih =>
    rw [size, List.foldl_cons, List.foldl_cons, ih, ih (0 + pointSize point), Nat.zero_add,
      Nat.add_assoc]

/-- Two texts have the bytes of both. -/
theorem size_append (left right : Text) : size (left ++ right) = size left + size right := by
  rw [size, List.foldl_append, foldl_pointSize]
  rfl

/-- The names, each after a slash. -/
def slashed (names : List Text) : Text := names.flatMap (Text.ofString "/" ++ ·)

/-- A name after a slash has one byte more than the name. -/
theorem size_slashed_cons (name : Text) (names : List Text) :
    size (slashed (name :: names)) = size name + 1 + size (slashed names) := by
  have slash : size (Text.ofString "/") = 1 := rfl
  rw [slashed, List.flatMap_cons, size_append, size_append, slash, Nat.add_comm 1, slashed]

/-- A slash comes before every name of a path but the first. -/
theorem path_cons (first : Text) (rest : List Text) :
    path (first :: rest) = first ++ slashed rest := Text.intercalate_cons _ first rest

/-! ## The way of a path -/

/-- No more folders are made than a path has parts. -/
theorem newFolders_le (named : Bool) (passedSize : Nat) (parts : List Text) :
    newFolders named passedSize parts ≤ parts.length := by
  induction parts generalizing named passedSize with
  | nil => exact Nat.le_refl 0
  | cons part rest ih =>
    have later := ih (named || isName part) (passedSize + size part + 1)
    rw [newFolders, List.length_cons]
    split
    · omega
    · omega

/-- A plain name is refused for nothing where the path up to it is short. -/
theorem partFault?_of_plain {name : Text} (plain : Plain name) {pathSize : Nat}
    (short : pathSize ≤ maxPathSize) : partFault? name pathSize = none := by
  have fits : ¬ (size name > maxPartSize ∨ pathSize > maxPathSize) := by
    have := plain.short
    omega
  rw [partFault?, plain.nameable, Bool.not_true, if_neg Bool.false_ne_true, if_neg plain.unended,
    if_neg fits]

/-- A plain name leads below a place. -/
theorem enter_of_plain {name : Text} (plain : Plain name) (place : Place) :
    place.enter name = { place with names := name :: place.names } := by
  have named := plain.named
  simp only [isName, decide_eq_true_eq] at named
  rw [Place.enter, if_neg (not_or.mpr ⟨named.1, named.2.1⟩), if_neg named.2.2]

/-- Plain names lead from a place to the file below it with the last of them. -/
theorem walk_of_plain {names : List Text} {place : Place} {passed : List Place} {passedSize : Nat}
    (plain : ∀ name ∈ names, Plain name) (left : names ≠ [] ∨ place.names ≠ [])
    (deeper : ∀ other ∈ passed, other.names.length < place.names.length)
    (short : passedSize + size (slashed names) ≤ maxPathSize + 1) :
    walk place passed passedSize names = .ok ⟨place.start, names.reverse ++ place.names⟩ := by
  -- Every name leads to a place with one name more, so no place is one of those gone through.
  induction names generalizing place passed passedSize with
  | nil =>
    have named : place.names ≠ [] := left.resolve_left fun empty => empty rfl
    have new : place ∉ passed := fun mem => Nat.lt_irrefl _ (deeper place mem)
    rw [walk, if_neg (not_or.mpr ⟨named, new⟩)]
    rfl
  | cons name rest ih =>
    rw [List.forall_mem_cons] at plain
    rw [size_slashed_cons] at short
    have allowed : partFault? name (passedSize + size name) = none :=
      partFault?_of_plain plain.1 (by omega)
    have below : ∀ other ∈ place :: passed,
        other.names.length < (name :: place.names).length := by
      rw [List.forall_mem_cons]
      refine ⟨Nat.lt_succ_self _, fun other mem => ?_⟩
      exact Nat.lt_succ_of_lt (deeper other mem)
    have later : walk ⟨place.start, name :: place.names⟩ (place :: passed)
        (passedSize + size name + 1) rest =
          .ok ⟨place.start, rest.reverse ++ name :: place.names⟩ :=
      ih plain.2 (.inr (List.cons_ne_nil _ _)) below (by omega)
    rw [walk, allowed, enter_of_plain plain.1, List.reverse_cons, List.append_assoc,
      List.singleton_append]
    exact later

/-- A short relative path of plain names leads to the file with the last of them, below the folders
with the others. -/
theorem locate_of_plain {names : List Text} (left : names ≠ [])
    (plain : ∀ name ∈ names, Plain name) (short : size (path names) ≤ maxPathSize)
    (few : names.length ≤ maxNewFolders + 1) :
    locate (path names) = .ok ⟨.above 0, names.reverse⟩ := by
  cases names with
  | nil => exact absurd rfl left
  | cons first rest =>
    rw [path_cons] at short ⊢
    have cut : parts (first ++ slashed rest) = first :: rest := by
      rw [parts]
      exact Text.cutAll_flatMap (plain first List.mem_cons_self).undivided fun name mem =>
        (plain name (List.mem_cons_of_mem first mem)).undivided
    have start : (first ++ slashed rest).head? ≠ some (.char '/') := by
      obtain ⟨named, -, -, undivided, -⟩ := plain first List.mem_cons_self
      cases first with
      | nil => cases named
      | cons point name =>
        exact fun same => undivided (Option.some.inj same ▸ List.mem_cons_self)
    have folders : ¬ newFolders false 0 (first :: rest).dropLast > maxNewFolders := by
      have most := newFolders_le false 0 (first :: rest).dropLast
      rw [List.length_dropLast] at most
      omega
    have bytes : size (slashed (first :: rest)) ≤ maxPathSize + 1 := by
      rw [size_append] at short
      rw [size_slashed_cons]
      omega
    have unpassed : ∀ other ∈ ([] : List Place), other.names.length < 0 :=
      fun other mem => absurd mem List.not_mem_nil
    have walked : walk ⟨.above 0, []⟩ [] 0 (first :: rest) =
        .ok ⟨.above 0, (first :: rest).reverse ++ []⟩ :=
      walk_of_plain plain (.inl left) unpassed (by omega)
    rw [locate, cut, if_neg start, if_neg folders, walked, List.append_nil]

end SchemaDesk.CommandLine.OutputFile
