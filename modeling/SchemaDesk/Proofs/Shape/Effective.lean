import Mathlib.Data.List.Find
import Mathlib.Logic.Relation
import SchemaDesk.Proofs.Shape.Local
/-!
# Only effective keys matter

What is found for the members of an object does not depend on the order of the keys, on keys that
spell no member, and on what stands under a key in snake case where the one in camel case is there
too (`Shape.Name.Unheeded`). Such changes, at any depth, keep the value, the names given and all
that the details tell. Where a key is replaced by the other spelling of the same member
(`Shape.Renames`), the value and the names given stay too, and the details tell the same of places
that are spelled anew (`Shape.effective_keys_only`).

A change is said once for the object it is made in and then carried to any depth
(`Shape.Altered`). What it does to the outcome is said by the way that places take (`Follows`), with
one law for each kind of value that has parts.
-/

namespace SchemaDesk

/-! ## Places on another way -/

namespace Detail

variable {route : List Step → List Step} {step : Step} {early late : List (Fault × List Step)}

/-- What details tell, with every place sent another way. -/
def rerouted (route : List Step → List Step) (reports : List (Fault × List Step)) :
    List (Fault × List Step) :=
  reports.map fun report => (report.1, route report.2)

/-- A way for the places below one step: they are seen below another step, and go their own way
below it. -/
def redirect (step new : Step) (route : List Step → List Step) : List Step → List Step
  | [] => []
  | first :: rest => if first = step then new :: route rest else first :: rest

/-- A way for the places below a place. -/
def below (place : List Step) (route : List Step → List Step) : List Step → List Step :=
  place.foldr (fun step => redirect step step) route

/-- The way of the places below a key of the object at a place when this key is spelled anew. -/
def respell (place : List Step) (old new : Text) : List Step → List Step :=
  below place (redirect (.key old) (.key new) id)

/-- Reports stay where places do. -/
theorem rerouted_id (reports : List (Fault × List Step)) : rerouted id reports = reports :=
  List.map_id reports

/-- A step that is kept leads on as before. -/
theorem redirect_id (step : Step) : redirect step step id = id := by
  funext place
  cases place with
  | nil => rfl
  | cons first rest =>
    by_cases same : first = step
    · rw [redirect, if_pos same, same]
      rfl
    · rw [redirect, if_neg same]
      rfl

/-- Places below a place stay where places do. -/
theorem below_id (place : List Step) : below place id = id := by
  induction place with
  | nil => rfl
  | cons step place ih =>
    have inner : below (step :: place) id = redirect step step (below place id) := rfl
    rw [inner, ih, redirect_id]

/-- A place behind the step goes behind the new one. -/
theorem redirect_self (step new : Step) (route : List Step → List Step) (rest : List Step) :
    redirect step new route (step :: rest) = new :: route rest :=
  if_pos rfl

/-- A place behind another step stays. -/
theorem redirect_of_ne {first : Step} (other : first ≠ step) (new : Step)
    (route : List Step → List Step) (rest : List Step) :
    redirect step new route (first :: rest) = first :: rest :=
  if_neg other

/-- A place keeps its length. -/
theorem length_redirect (keeps : ∀ place, (route place).length = place.length) (step new : Step)
    (place : List Step) : (redirect step new route place).length = place.length := by
  cases place with
  | nil => rfl
  | cons first rest =>
    by_cases same : first = step
    · rw [same, redirect_self, List.length_cons, List.length_cons, keeps]
    · rw [redirect_of_ne same]

/-- Only what the part below the step tells goes another way. -/
theorem rerouted_split (beside : Beside step (early ++ late)) (new : Step)
    (route : List Step → List Step) (reports : List (Fault × List Step)) :
    rerouted (redirect step new route) (early ++ placed [step] reports ++ late) =
      early ++ placed [new] (rerouted route reports) ++ late := by
  have stays (others : List (Fault × List Step)) (within : ∀ report ∈ others,
      report ∈ early ++ late) : rerouted (redirect step new route) others = others := by
    refine (List.map_congr_left fun report mem => ?_).trans (List.map_id others)
    obtain ⟨first, rest, shown, other⟩ := beside report (within report mem)
    rw [shown, redirect_of_ne other, ← shown]
    rfl
  have moves : rerouted (redirect step new route) (placed [step] reports) =
      placed [new] (rerouted route reports) := by
    simp only [rerouted, placed, List.map_map]
    refine List.map_congr_left fun report _ => ?_
    simp only [Function.comp, List.singleton_append, redirect_self]
  rw [rerouted, List.map_append, List.map_append, ← rerouted, ← rerouted, ← rerouted, moves,
    stays early fun _ => List.mem_append_left late, stays late fun _ => List.mem_append_right early]

end Detail

/-! ## Members found -/

namespace Json

/-- Two objects have the same apart from what stands under a key. -/
def SameApart (key : Text) (members others : Members) : Prop :=
  members.filter (·.1 ≠ key) = others.filter (·.1 ≠ key)

end Json

namespace Member

variable {member : Member} {key name : Text} {members others : Members}

/-- Objects that are the same apart from a name have the same under every other name. -/
theorem find?_key_of_sameApart (same : Json.SameApart key members others) (other : name ≠ key) :
    members.find? (·.1 = name) = others.find? (·.1 = name) := by
  have filtered (members : Members) : (members.filter (·.1 ≠ key)).find? (·.1 = name) =
      members.find? (·.1 = name) := by
    rw [List.find?_filter]
    refine List.find?_congr fun entry _ => decide_eq_decide.mpr ?_
    rw [decide_eq_true_iff, decide_eq_true_iff]
    exact and_iff_right_of_imp fun here => here ▸ other
  rw [← filtered, same, filtered]

/-- What stands under a key that does not spell a member does not count for the member. -/
theorem find?_of_sameApart (same : Json.SameApart key members others)
    (unspelled : ¬ member.Spells key) : member.find? members = member.find? others := by
  have camel : Text.ofString member.camel ≠ key := fun equal => unspelled (.inl equal.symm)
  have snake : Text.ofString member.snake ≠ key := fun equal => unspelled (.inr equal.symm)
  rw [find?, find?, find?_key_of_sameApart same camel, find?_key_of_sameApart same snake]

/-- A key that does not spell a member does not count for the member. -/
theorem find?_of_unspelled {before after : Members} {json : Json}
    (unspelled : ¬ member.Spells key) :
    member.find? (before ++ (key, json) :: after) = member.find? (before ++ after) := by
  have same : Json.SameApart key (before ++ (key, json) :: after) (before ++ after) := by
    simp [Json.SameApart]
  exact find?_of_sameApart same unspelled

/-- A key that spells a member counts for it when no other key does. -/
theorem find?_alone {before after : Members} {json : Json} (spelled : member.Spells key)
    (alone : ∀ entry ∈ before ++ after, ¬ member.Spells entry.1) :
    member.find? (before ++ (key, json) :: after) = some (key, json) := by
  have beside {name : Text} (spells : member.Spells name) :
      before.find? (·.1 = name) = none ∧ after.find? (·.1 = name) = none := by
    constructor
    · refine List.find?_eq_none.mpr fun entry mem here => ?_
      exact alone entry (List.mem_append_left after mem) (of_decide_eq_true here ▸ spells)
    · refine List.find?_eq_none.mpr fun entry mem here => ?_
      exact alone entry (List.mem_append_right before mem) (of_decide_eq_true here ▸ spells)
  have found {name : Text} (spells : member.Spells name) :
      (before ++ (key, json) :: after).find? (·.1 = name) =
        if key = name then some (key, json) else none := by
    obtain ⟨early, late⟩ := beside spells
    rw [List.find?_append, List.find?_cons, early, late, Option.none_or]
    by_cases here : key = name <;> simp [here]
  rw [find?, found (.inl rfl), found (.inr rfl)]
  rcases spelled with rfl | rfl
  · rw [if_pos rfl, Option.some_or]
  · by_cases same : Text.ofString member.snake = Text.ofString member.camel
    · rw [if_pos same, Option.some_or]
    · rw [if_neg same, if_pos rfl, Option.none_or]

/-- The order of the keys does not matter. -/
theorem find?_of_perm (distinct : (members.map Prod.fst).Nodup) (perm : members.Perm others) :
    member.find? members = member.find? others := by
  have one (name : Text) : members.find? (·.1 = name) = others.find? (·.1 = name) := by
    refine List.find?_eq_find?_of_perm perm ?_
    rintro first ⟨firstMem, firstKey⟩ second ⟨secondMem, secondKey⟩
    have keys : first.1 = second.1 := (of_decide_eq_true firstKey).trans
      (of_decide_eq_true secondKey).symm
    exact List.inj_on_of_nodup_map distinct firstMem secondMem keys
  rw [find?, find?, one, one]

/-- What stands under the key in snake case does not count where the one in camel case is there. -/
theorem find?_of_shadowed (spellings : member.snake ≠ member.camel)
    (shadow : Text.ofString member.camel ∈ members.map Prod.fst)
    (same : Json.SameApart (Text.ofString member.snake) members others) :
    member.find? members = member.find? others := by
  have camel : Text.ofString member.camel ≠ Text.ofString member.snake :=
    fun equal => spellings (Text.ofString_inj.mp equal).symm
  obtain ⟨entry, mem, key⟩ := List.mem_map.mp shadow
  have found : (members.find? (·.1 = Text.ofString member.camel)).isSome = true :=
    List.find?_isSome.mpr ⟨entry, mem, decide_eq_true key⟩
  rw [find?, find?, ← find?_key_of_sameApart same camel, Option.or_of_isSome found,
    Option.or_of_isSome found]

end Member

namespace Shape

/-! ## Changes -/

/-- Whether an array can be a value of a form. -/
def Form.takesArray : Form → Bool
  | leaf _ | object _ => false
  | nullable form => form.takesArray
  | list _ => true

/-- Whether an object can be a value of a form. -/
def Form.takesObject : Form → Bool
  | leaf _ | list _ => false
  | nullable form => form.takesObject
  | object _ => true

/-- A change of the members of an object that is checked as a shape, which is not to matter. -/
inductive Name.Unheeded (name : Name) : Members → Members → Prop
  /-- The keys come in another order. -/
  | reordered {members others : Members} (distinct : (members.map Prod.fst).Nodup)
      (perm : members.Perm others) : Unheeded name members others
  /-- A key that spells no member is added or deleted, or has another value. -/
  | unknown {members others : Members} {key : Text}
      (unspelled : ∀ slot ∈ name.slots, ¬ slot.member.Spells key)
      (same : Json.SameApart key members others) : Unheeded name members others
  /-- The key in snake case of a member is added or deleted, or has another value, where the one in
  camel case is there. -/
  | shadowed {members others : Members} {slot : Slot} (mem : slot ∈ name.slots)
      (spellings : slot.member.snake ≠ slot.member.camel)
      (shadow : Text.ofString slot.member.camel ∈ members.map Prod.fst)
      (same : Json.SameApart (Text.ofString slot.member.snake) members others) :
      Unheeded name members others

/-- A change of a value that is not to matter. -/
inductive Idle : Form → Json → Json → Prop
  /-- A change of the members of an object. -/
  | members {name : Name} {members others : Members} (unheeded : name.Unheeded members others) :
      Idle (.object name) (.object members) (.object others)
  /-- A change within an array where no array is taken. -/
  | array {form : Form} (refused : form.takesArray = false) (items others : List Json) :
      Idle form (.array items) (.array others)
  /-- A change within an object where no object is taken. -/
  | object {form : Form} (refused : form.takesObject = false) (members others : Members) :
      Idle form (.object members) (.object others)

/-- One key of an object is replaced by a spelling of the same member; no other key spells it. -/
inductive Renames (old new : Text) : Form → Json → Json → Prop
  /-- The key stands between other keys. -/
  | renamed {name : Name} {slot : Slot} {json : Json} (before after : Members)
      (mem : slot ∈ name.slots) (spelled : slot.member.Spells old)
      (respelled : slot.member.Spells new)
      (alone : ∀ entry ∈ before ++ after, ¬ slot.member.Spells entry.1) :
      Renames old new (.object name) (.object (before ++ (old, json) :: after))
        (.object (before ++ (new, json) :: after))

/-- A change of the value at a place of a value, and of nothing else. -/
inductive Altered (change : Form → Json → Json → Prop) : Form → List Step → Json → Json → Prop
  /-- A change of the whole value. -/
  | whole {form : Form} {json other : Json} (changed : change form json other) :
      Altered change form [] json other
  /-- A change of a value that might have been `null`. -/
  | given {form : Form} {place : List Step} {json other : Json} (shown : json ≠ .null)
      (otherShown : other ≠ .null) (altered : Altered change form place json other) :
      Altered change (.nullable form) place json other
  /-- A change of an item of a list. -/
  | item {form : Form} {place : List Step} {json other : Json} (before after : List Json)
      (altered : Altered change form place json other) :
      Altered change (.list form) (.index before.length :: place)
        (.array (before ++ json :: after)) (.array (before ++ other :: after))
  /-- A change of the value that fills a slot of an object. -/
  | member {name : Name} {slot : Slot} {place : List Step} {members others : Members} {key : Text}
      {json other : Json} (mem : slot ∈ name.slots)
      (filled : slot.member.find? members = some (key, json))
      (refilled : slot.member.find? others = some (key, other))
      (same : Json.SameApart key members others)
      (altered : Altered change slot.form place json other) :
      Altered change (.object name) (.key key :: place) (.object members) (.object others)

/-- Members that are not heeded can be taken away or put there. -/
theorem Name.Unheeded.symm {name : Name} {members others : Members}
    (unheeded : name.Unheeded members others) : name.Unheeded others members := by
  cases unheeded with
  | reordered distinct perm => exact .reordered ((perm.map Prod.fst).nodup distinct) perm.symm
  | unknown unspelled same => exact .unknown unspelled same.symm
  | @shadowed slot mem spellings shadow same =>
    refine .shadowed mem spellings ?_ same.symm
    obtain ⟨entry, entryMem, key⟩ := List.mem_map.mp shadow
    have camel : entry.1 ≠ Text.ofString slot.member.snake := fun equal =>
      spellings (Text.ofString_inj.mp (equal.symm.trans key))
    have kept : entry ∈ members.filter (·.1 ≠ Text.ofString slot.member.snake) :=
      List.mem_filter.mpr ⟨entryMem, decide_eq_true camel⟩
    rw [same] at kept
    exact List.mem_map.mpr ⟨entry, List.mem_of_mem_filter kept, key⟩

/-- An idle change can be undone by one. -/
theorem Idle.symm {form : Form} {json other : Json} (idle : Idle form json other) :
    Idle form other json := by
  cases idle with
  | members unheeded => exact .members unheeded.symm
  | array refused items others => exact .array refused others items
  | object refused members others => exact .object refused others members

/-- A key that is spelled anew can be spelled as before. -/
theorem Renames.symm {old new : Text} {form : Form} {json other : Json}
    (renames : Renames old new form json other) : Renames new old form other json := by
  cases renames with
  | renamed before after mem spelled respelled alone =>
    exact .renamed before after mem respelled spelled alone

/-- A change at a place can be undone when the change can. -/
theorem Altered.symm {change back : Form → Json → Json → Prop}
    (symm : ∀ {form json other}, change form json other → back form other json)
    {form : Form} {place : List Step} {json other : Json}
    (altered : Altered change form place json other) : Altered back form place other json := by
  induction altered with
  | whole changed => exact .whole (symm changed)
  | given shown otherShown _ ih => exact .given otherShown shown ih
  | item before after _ ih => exact .item before after ih
  | member mem filled refilled same _ ih => exact .member mem refilled filled same.symm ih

/-! ## Names given -/

/-- At a place of a value that is checked as a form, an object gives the members with some names. -/
def NamesAt (form : Form) (json : Json) (place : List Step) (names : List String) : Prop :=
  ∃ (inner : Name) (value : Json), Within form json place (.object inner) value ∧
    inner.shape.namesGiven value = names

/-- At a form itself the names are those it is given. -/
theorem namesAt_nil {name : Name} {json : Json} {names : List String} :
    NamesAt (.object name) json [] names ↔ name.shape.namesGiven json = names := by
  constructor
  · rintro ⟨inner, value, within, given⟩
    cases within
    exact given
  · exact fun given => ⟨name, json, .whole, given⟩

/-- Where null is allowed, the names at a place of a value are the same. -/
theorem NamesAt.given {form : Form} {json : Json} {step : Step} {place : List Step}
    {names : List String} (named : NamesAt form json (step :: place) names) :
    NamesAt (.nullable form) json (step :: place) names := by
  obtain ⟨inner, value, within, given⟩ := named
  exact ⟨inner, value, .given within, given⟩

/-- The names at a place of an item are those at the place of the list. -/
theorem NamesAt.item {form : Form} {items : List Json} {index : Nat} {item : Json}
    {place : List Step} {names : List String} (found : items[index]? = some item)
    (named : NamesAt form item place names) :
    NamesAt (.list form) (.array items) (.index index :: place) names := by
  obtain ⟨inner, value, within, given⟩ := named
  exact ⟨inner, value, .item found within, given⟩

/-- The names at a place of a member are those at the place of the object. -/
theorem NamesAt.member {name : Name} {slot : Slot} {members : Members} {key : Text} {json : Json}
    {place : List Step} {names : List String} (mem : slot ∈ name.slots)
    (filled : slot.member.find? members = some (key, json))
    (named : NamesAt slot.form json place names) :
    NamesAt (.object name) (.object members) (.key key :: place) names := by
  obtain ⟨inner, value, within, given⟩ := named
  exact ⟨inner, value, .member mem filled within, given⟩

/-- A plain value has no names. -/
theorem not_namesAt_leaf {kind : Attribute.Kind} {json : Json} {place : List Step}
    {names : List String} : ¬ NamesAt (.leaf kind) json place names := by
  rintro ⟨inner, value, within, -⟩
  cases within

/-- Objects that have something for the same members give the same names. -/
theorem Name.namesGiven_congr {name : Name} {members others : Members}
    (same : ∀ slot ∈ name.slots, (slot.member.find? members).isSome =
      (slot.member.find? others).isSome) :
    name.shape.namesGiven (.object members) = name.shape.namesGiven (.object others) := by
  rw [Shape.namesGiven, Shape.namesGiven, name.slotted.members]
  refine congrArg (List.map Member.snake) (List.filter_congr ?_)
  rw [List.forall_mem_map]
  exact same

/-! ## Outcomes that follow a way -/

/-- A value has the outcome of another one whose places went another way: the same value, the same
names given, and details that tell the same of the places on their way. -/
structure Follows (route : List Step → List Step) (form : Form) (json other : Json) : Prop where
  keeps : ∀ place, (route place).length = place.length
  value? : ∀ origin, (form.read origin other).value? = (form.read origin json).value?
  told : ∀ origin, (form.read origin other).told =
    Detail.rerouted route (form.read origin json).told
  names : ∀ place names, NamesAt form json place names → NamesAt form other (route place) names

namespace Follows

open Detail (redirect below respell)

variable {route : List Step → List Step} {form : Form} {name : Name} {slot : Slot}
  {json other : Json} {members others : Members}

/-- A value follows itself. -/
theorem refl (form : Form) (json : Json) : Follows id form json json where
  keeps _ := rfl
  value? _ := rfl
  told _ := (Detail.rerouted_id _).symm
  names _ _ := fun named => named

/-- What follows a value that follows another follows that one. -/
theorem trans {route further : List Step → List Step} {last : Json}
    (first : Follows route form json other) (second : Follows further form other last) :
    Follows (further ∘ route) form json last where
  keeps place := (second.keeps _).trans (first.keeps place)
  value? origin := (second.value? origin).trans (first.value? origin)
  told origin := by
    rw [second.told, first.told, Detail.rerouted, Detail.rerouted, List.map_map]
    rfl
  names place names named := second.names _ _ (first.names place names named)

/-- Objects that have the same for every member. -/
theorem of_find? (same : ∀ slot ∈ name.slots,
    slot.member.find? members = slot.member.find? others) :
    Follows id (.object name) (.object members) (.object others) where
  keeps _ := rfl
  value? origin := (name.slotted.value? origin members others fun slot mem =>
    congrArg Prod.fst (Slot.report_outcome_congr (same slot mem))).symm
  told origin := by
    rw [Detail.rerouted_id, told_object, told_object]
    exact List.flatMap_congr fun slot mem =>
      congrArg Prod.snd (Slot.report_outcome_congr (same slot mem).symm)
  names := by
    rintro place names ⟨inner, value, within, given⟩
    cases within with
    | whole =>
      rw [id, namesAt_nil, ← given]
      exact Name.namesGiven_congr fun slot mem => congrArg Option.isSome (same slot mem).symm
    | member mem filled within =>
      exact .member mem ((same _ mem).symm.trans filled) ⟨inner, value, within, given⟩

/-- Objects that have the same for every member but one. -/
theorem member {key new : Text} (mem : slot ∈ name.slots)
    (filled : slot.member.find? members = some (key, json))
    (refilled : slot.member.find? others = some (new, other))
    (same : ∀ another : Slot, slot.member.Apart another.member →
      another.member.find? others = another.member.find? members)
    (follows : Follows route slot.form json other) :
    Follows (redirect (.key key) (.key new) route) (.object name) (.object members)
      (.object others) where
  keeps := Detail.length_redirect follows.keeps _ _
  value? origin := by
    refine name.slotted.value? origin others members fun another anotherMem => ?_
    by_cases this : slot = another
    · subst this
      rw [Slot.outcome_of_filled filled, Slot.outcome_of_filled refilled]
      simp only [Checked.value?_under, Checked.value?_map, follows.value?]
    · exact congrArg Prod.fst
        (Slot.report_outcome_congr (same another (name.apart_slots mem anotherMem this)))
  told origin := by
    obtain ⟨before, after, beside, split⟩ := told_object_split mem origin members
    rw [split others same, split members fun _ _ => rfl, Slot.told_of_filled filled,
      Slot.told_of_filled refilled, follows.told,
      Detail.rerouted_split (beside key (Member.spells_of_find? filled))]
  names := by
    rintro place names ⟨inner, value, within, given⟩
    have unchanged {another : Slot} (anotherMem : another ∈ name.slots)
        (distinct : slot ≠ another) :=
      same another (name.apart_slots mem anotherMem distinct)
    cases within with
    | whole =>
      refine ⟨name, _, .whole, given ▸ Name.namesGiven_congr fun another anotherMem => ?_⟩
      by_cases this : slot = another
      · rw [← this, filled, refilled]
        rfl
      · rw [unchanged anotherMem this]
    | @member _ another _ _ used _ _ rest anotherMem anotherFilled within =>
      by_cases this : slot = another
      · subst this
        obtain ⟨rfl, rfl⟩ := Prod.mk.inj (Option.some.inj (filled.symm.trans anotherFilled))
        rw [Detail.redirect_self]
        exact .member mem refilled (follows.names _ _ ⟨inner, value, within, given⟩)
      · -- No other slot is filled from the key, because no key spells two members of a shape.
        have distinct : Step.key used ≠ .key key := by
          intro equal
          obtain rfl := Step.key.inj equal
          exact (name.apart_slots mem anotherMem this).not_spells (Member.spells_of_find? filled)
            (Member.spells_of_find? anotherFilled)
        rw [Detail.redirect_of_ne distinct]
        exact .member anotherMem ((unchanged anotherMem this).trans anotherFilled)
          ⟨inner, value, within, given⟩

/-- Lists that have the same items but one. -/
theorem item (before after : List Json) (follows : Follows route form json other) :
    Follows (redirect (.index before.length) (.index before.length) route) (.list form)
      (.array (before ++ json :: after)) (.array (before ++ other :: after)) where
  keeps := Detail.length_redirect follows.keeps _ _
  value? origin := by
    rw [read_array, read_array]
    refine Checked.value?_all_congr ?_
    simp only [List.mapIdx_append, List.mapIdx_cons, List.map_append, List.map_cons,
      Checked.value?_under, follows.value?]
  told origin := by
    obtain ⟨left, right, beside, split⟩ := told_list_split form origin before after
    rw [split, split, follows.told, Detail.rerouted_split beside]
  names := by
    rintro place names ⟨inner, value, within, given⟩
    cases within with
    | @item _ _ _ index item _ rest found within =>
      by_cases here : index = before.length
      · subst here
        obtain rfl : json = item := by
          rw [List.getElem?_append_right le_rfl, Nat.sub_self] at found
          exact Option.some.inj found
        have refilled : (before ++ other :: after)[before.length]? = some other := by
          rw [List.getElem?_append_right le_rfl, Nat.sub_self]
          rfl
        rw [Detail.redirect_self]
        exact .item refilled (follows.names _ _ ⟨inner, value, within, given⟩)
      · have distinct : Step.index index ≠ .index before.length :=
          fun equal => here (Step.index.inj equal)
        have same : (before ++ other :: after)[index]? = some item := by
          rw [← found]
          grind
        rw [Detail.redirect_of_ne distinct]
        exact .item same ⟨inner, value, within, given⟩

/-- A value that might have been `null`. -/
theorem nullable (shown : json ≠ .null) (otherShown : other ≠ .null)
    (follows : Follows route form json other) : Follows route (.nullable form) json other where
  keeps := follows.keeps
  value? origin := by
    rw [(read_nullable form origin).2 _ shown, (read_nullable form origin).2 _ otherShown,
      Checked.value?_map, Checked.value?_map, follows.value?]
  told origin := by
    rw [told_nullable shown, told_nullable otherShown, follows.told]
  names := by
    rintro place names ⟨inner, value, within, given⟩
    cases within with
    | @given _ _ _ _ step rest within =>
      have named := follows.names _ _ ⟨inner, value, within, given⟩
      -- The whole value may be `null`, so a part of it has to stay a part on its way.
      obtain ⟨first, more, way⟩ := List.exists_cons_of_length_eq_add_one
        (follows.keeps (step :: rest))
      rw [way] at named ⊢
      exact named.given

/-- Values that a form refuses for the same fault. -/
theorem of_refused (refused : ∀ origin, ∃ fault, form.read origin json = .refuse fault json ∧
      form.read origin other = .refuse fault other)
    (unnamed : ∀ place names, NamesAt form json place names → NamesAt form other place names) :
    Follows id form json other where
  keeps _ := rfl
  value? origin := by
    obtain ⟨fault, here, there⟩ := refused origin
    rw [here, there]
    rfl
  told origin := by
    obtain ⟨fault, here, there⟩ := refused origin
    rw [here, there]
    rfl
  names := unnamed

/-- An object and the one it follows give the same names. -/
theorem namesGiven (follows : Follows route (.object name) json other) :
    name.shape.namesGiven other = name.shape.namesGiven json := by
  have top : route [] = [] := List.eq_nil_of_length_eq_zero (follows.keeps [])
  have named := follows.names [] _ (namesAt_nil.mpr rfl)
  rw [top] at named
  exact namesAt_nil.mp named

/-- A change that is not to matter sends no place another way. -/
theorem of_idle (idle : Idle form json other) : Follows id form json other := by
  cases idle with
  | members unheeded =>
    refine of_find? fun slot mem => ?_
    cases unheeded with
    | reordered distinct perm => exact Member.find?_of_perm distinct perm
    | unknown unspelled same => exact Member.find?_of_sameApart same (unspelled slot mem)
    | @shadowed shadowed shadowedMem spellings shadow same =>
      by_cases this : shadowed = slot
      · exact this ▸ Member.find?_of_shadowed spellings shadow same
      · have apart := Name.apart_slots _ shadowedMem mem this
        exact Member.find?_of_sameApart same (apart.not_spells (.inr rfl))
  | array refused items others =>
    -- The induction is for the forms that take `null` too: they refuse what their own form refuses.
    induction form with
    | leaf kind =>
      refine of_refused (fun _ => ?_) fun _ _ named => absurd named not_namesAt_leaf
      cases kind <;> exact ⟨_, rfl, rfl⟩
    | object name =>
      refine of_refused (fun _ => ⟨_, rfl, rfl⟩) ?_
      rintro place names ⟨inner, value, within, given⟩
      cases within
      exact ⟨name, _, .whole, given⟩
    | nullable form ih => exact (ih refused).nullable Json.noConfusion Json.noConfusion
    | list => cases refused
  | object refused members others =>
    induction form with
    | leaf kind =>
      refine of_refused (fun _ => ?_) fun _ _ named => absurd named not_namesAt_leaf
      cases kind <;> exact ⟨_, rfl, rfl⟩
    | object name => cases refused
    | nullable form ih => exact (ih refused).nullable Json.noConfusion Json.noConfusion
    | list form =>
      refine of_refused (fun _ => ⟨_, rfl, rfl⟩) ?_
      rintro place names ⟨inner, value, within, -⟩
      cases within

/-- Another spelling of a key sends only the places below this key another way. -/
theorem of_renames {old new : Text} (renames : Renames old new form json other) :
    Follows (redirect (.key old) (.key new) id) form json other := by
  cases renames with
  | @renamed name slot json before after mem spelled respelled alone =>
    refine member mem (Member.find?_alone spelled alone) (Member.find?_alone respelled alone)
      (fun another apart => ?_) (refl slot.form json)
    rw [Member.find?_of_unspelled (apart.not_spells respelled),
      Member.find?_of_unspelled (apart.not_spells spelled)]

/-- What a change does to places, it does below the place where the change is made. -/
theorem of_altered {change : Form → Json → Json → Prop} {place : List Step}
    (sound : ∀ {form json other}, change form json other → Follows route form json other)
    (altered : Altered change form place json other) :
    Follows (below place route) form json other := by
  induction altered with
  | whole changed => exact sound changed
  | given shown otherShown _ ih => exact ih.nullable shown otherShown
  | item before after _ ih => exact ih.item before after
  | @member name slot place members others key json other mem filled refilled same _ ih =>
    refine ih.member mem filled refilled fun another apart => ?_
    have spells := Member.spells_of_find? filled
    exact (Member.find?_of_sameApart same (apart.not_spells spells)).symm

end Follows

/-! ## Effective keys -/

/-- A change of a value that is checked as a shape, at any depth, which is not to matter. -/
def Name.Retouched (name : Name) (json other : Json) : Prop :=
  ∃ place, Altered Idle (.object name) place json other

/-- Changes can be undone by changes. -/
theorem Name.Retouched.symm {name : Name} {json other : Json}
    (retouched : name.Retouched json other) : name.Retouched other json := by
  obtain ⟨place, altered⟩ := retouched
  exact ⟨place, altered.symm Idle.symm⟩

/-- Changes go both ways. -/
instance (name : Name) : Std.Symm name.Retouched := ⟨fun _ _ => Name.Retouched.symm⟩

/-- Any number of changes that are not to matter keep the outcome. -/
theorem Follows.of_retouched {name : Name} {json other : Json}
    (retouched : Relation.ReflTransGen name.Retouched json other) :
    Follows id (.object name) json other := by
  induction retouched with
  | refl => exact .refl _ _
  | tail _ step ih =>
    obtain ⟨place, altered⟩ := step
    have last := Follows.of_altered Follows.of_idle altered
    rw [Detail.below_id] at last
    exact ih.trans last

/-- Only effective keys matter, for every shape of the domain. Changes of the order of keys, of keys
that spell no member and of keys in snake case beside the one in camel case, any number of them and
at any depth, keep the value, the names given at every place, the faults and their places. Another
spelling of a key, at any depth, keeps the value, the names given and the faults; the places of the
faults and of the objects that give names have the new key instead of the old one. -/
theorem effective_keys_only (name : Name) :
    (∀ json other, Relation.ReflTransGen name.Retouched json other →
      (∀ origin, (name.shape.read origin other).report = (name.shape.read origin json).report) ∧
      name.shape.namesGiven other = name.shape.namesGiven json ∧
      ∀ place names,
        NamesAt (.object name) json place names ↔ NamesAt (.object name) other place names) ∧
    ∀ old new place json other, Altered (Renames old new) (.object name) place json other →
      (∀ origin, (name.shape.read origin other).value? = (name.shape.read origin json).value? ∧
        (name.shape.read origin other).told =
          Detail.rerouted (Detail.respell place old new) (name.shape.read origin json).told) ∧
      name.shape.namesGiven other = name.shape.namesGiven json ∧
      (∀ inner names, NamesAt (.object name) json inner names →
        NamesAt (.object name) other (Detail.respell place old new inner) names) ∧
      ∀ inner names, NamesAt (.object name) other inner names →
        NamesAt (.object name) json (Detail.respell place new old inner) names := by
  constructor
  · intro json other retouched
    have follows := Follows.of_retouched retouched
    have back := Follows.of_retouched (Std.Symm.symm _ _ retouched)
    refine ⟨fun origin => ?_, follows.namesGiven,
      fun place names => ⟨follows.names _ _, back.names _ _⟩⟩
    have told := follows.told origin
    rw [Detail.rerouted_id] at told
    exact Prod.ext (follows.value? origin) told
  · intro old new place json other altered
    have follows := Follows.of_altered Follows.of_renames altered
    have back := Follows.of_altered Follows.of_renames (altered.symm Renames.symm)
    exact ⟨fun origin => ⟨follows.value? origin, follows.told origin⟩, follows.namesGiven,
      follows.names, back.names⟩

/-- The faulty model without the key that is not looked at. -/
def shorterModel : Json :=
  .object [("fields", .array [.object [("id", .string "a"), ("is_id", .string "perhaps")],
      .object [("mapName", .bool true)]]),
    ("name", .int 3)]

/-- The shorter model with its keys in another order. -/
def reorderedModel : Json :=
  .object [("name", .int 3),
    ("fields", .array [.object [("id", .string "a"), ("is_id", .string "perhaps")],
      .object [("mapName", .bool true)]])]

/-- The reordered model with a key that spells no member. -/
def longerModel : Json :=
  .object [("name", .int 3),
    ("fields", .array [.object [("id", .string "a"), ("is_id", .string "perhaps")],
      .object [("mapName", .bool true)]]),
    ("note", .null)]

/-- The faulty model with the other spelling of one key. -/
def respelledModel : Json :=
  .object [("fields", .array [.object [("id", .string "a"), ("isId", .string "perhaps")],
      .object [("mapName", .bool true), ("map_name", .string "b")]]),
    ("name", .int 3)]

/-- The faulty model keeps its faults when it is retouched, and one of them moves to the other
spelling of its key. -/
theorem effective_keys_only_faulty :
    (Relation.ReflTransGen Name.model.Retouched faultyModel longerModel ∧
      (Name.model.shape.read .body longerModel).report =
        (Name.model.shape.read .body faultyModel).report) ∧
    Altered (Renames "is_id" "isId") (.object .model) [.key "fields", .index 0] faultyModel
        respelledModel ∧
      (Name.model.shape.read .body respelledModel).told =
        [(.notText, [.key "name"]), (.unclearFlag, [.key "fields", .index 0, .key "isId"]),
          (.missing, [.key "fields", .index 1, .key "id"]),
          (.notText, [.key "fields", .index 1, .key "mapName"])] := by
  have fields : ⟨.plain "fields", false, .list (.object .field)⟩ ∈ Name.slots .model := by decide
  have mapName : ⟨⟨"map_name", "mapName"⟩, false, .leaf .text⟩ ∈ Name.slots .field := by decide
  have flag : ⟨⟨"is_id", "isId"⟩, false, .leaf .flag⟩ ∈ Name.slots .field := by decide
  have unspelled : ∀ slot ∈ Name.slots .model, ¬ slot.member.Spells "note" := by decide
  have shadowed : Name.model.Retouched faultyModel shorterModel := by
    refine ⟨_, .member fields rfl rfl rfl (.item [_] [] (.whole (.members ?_)))⟩
    exact .shadowed mapName (by decide) (by decide) rfl
  have reordered : Name.model.Retouched shorterModel reorderedModel :=
    ⟨[], .whole (.members (.reordered (by decide) (.swap ..)))⟩
  have unknown : Name.model.Retouched reorderedModel longerModel :=
    ⟨[], .whole (.members (.unknown unspelled rfl))⟩
  have chain : Relation.ReflTransGen Name.model.Retouched faultyModel longerModel :=
    ((Relation.ReflTransGen.single shadowed).tail reordered).tail unknown
  have renamed : Altered (Renames "is_id" "isId") (.object .model) [.key "fields", .index 0]
      faultyModel respelledModel := by
    refine .member fields rfl rfl rfl (.item [] [_] (.whole ?_))
    exact .renamed [_] [] flag (by decide) (by decide) (by decide)
  have told := (((effective_keys_only .model).2 _ _ _ _ _ renamed).1 .body).2
  refine ⟨⟨chain, ((effective_keys_only .model).1 _ _ chain).1 .body⟩, renamed, told.trans ?_⟩
  decide +kernel

end Shape

end SchemaDesk
