import SchemaDesk.Json.Number
import SchemaDesk.Text.Basic

/-!
# JSON values

A JSON value with the members of an object in order. Two things that a text can say cannot be
repeated by an answer: a number that is not finite, and a text with half a character. `Json.isPlain`
holds of the values without them. Members whose key marks them as internal are never repeated;
`Json.shared` is a value without them.
-/

namespace SchemaDesk

/-- A JSON value. -/
inductive Json where
  /-- The value `null`. -/
  | null
  /-- A truth value. -/
  | bool (value : Bool)
  /-- A number. -/
  | number (value : Number)
  /-- A string. -/
  | string (value : Text)
  /-- An array. -/
  | array (items : List Json)
  /-- An object, its members in order. -/
  | object (members : List (Text × Json))
deriving Repr

/-- The members of an object. -/
abbrev Members : Type := List (Text × Json)

namespace Json

/-- A whole number as a JSON value. -/
def int (value : Int) : Json := .number (.integer value)

/-- A natural number as a JSON value. -/
def nat (value : Nat) : Json := .int value

/-- An array of strings. -/
def strings (values : List Text) : Json := .array (values.map .string)

/-- The value of an optional part, `null` for none. -/
def orNull {α : Type} (write : α → Json) : Option α → Json
  | none => .null
  | some value => write value

/-- The members with the value of one key replaced, or with the new member at the end. -/
def put (key : Text) (value : Json) : Members → Members
  | [] => [(key, value)]
  | member :: rest => if member.1 = key then (key, value) :: rest else member :: put key value rest

mutual

/-- Whether every number of a value is finite and every text whole. -/
def isPlain : Json → Bool
  | .number .nonFinite => false
  | .string text => text.isWhole
  | .array items => allPlain items
  | .object members => allMembersPlain members
  | _ => true

/-- Whether all values of a list are plain. -/
def allPlain : List Json → Bool
  | [] => true
  | item :: rest => isPlain item && allPlain rest

/-- Whether the keys of all members are whole and their values plain. -/
def allMembersPlain : Members → Bool
  | [] => true
  | (key, value) :: rest => key.isWhole && isPlain value && allMembersPlain rest

end

/-- How the keys of internal members begin. -/
def internalMark : Text := "_sa"

mutual

/-- A value without internal members, at every depth. -/
def shared : Json → Json
  | .array items => .array (sharedItems items)
  | .object members => .object (sharedMembers members)
  | value => value

/-- The values of a list, each without internal members. -/
def sharedItems : List Json → List Json
  | [] => []
  | item :: rest => shared item :: sharedItems rest

/-- The members that are not internal, each without internal members in its value. -/
def sharedMembers : Members → Members
  | [] => []
  | (key, value) :: rest =>
    if internalMark.isPrefixOf key then sharedMembers rest
    else (key, shared value) :: sharedMembers rest

end

end Json

end SchemaDesk
