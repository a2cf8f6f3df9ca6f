import SchemaDesk.Shape.Content

/-!
# Parts of JSON objects

A part reads some of the members of an object and writes them. A member has two spellings; when an
object has both, the one in camel case counts and the other is not looked at. Members that no part
asks for do not matter. Parts are put together member after member, so the details of an object come
in the order of its members in the shape.
-/

namespace SchemaDesk

/-- The name of a member in both spellings. -/
structure Member where
  /-- The name in snake case. -/
  snake : String
  /-- The name in camel case. -/
  camel : String
deriving DecidableEq, Repr

namespace Member

/-- The name in a spelling. -/
def name (member : Member) : Spelling → String
  | .snake => member.snake
  | .camel => member.camel

/-- A member whose two spellings are the same. -/
def plain (name : String) : Member := ⟨name, name⟩

/-- The key and the value that an object has for a member. -/
def find? (member : Member) (members : Members) : Option (Text × Json) :=
  (members.find? (·.1 = Text.ofString member.camel)).or
    (members.find? (·.1 = Text.ofString member.snake))

end Member

/-- A reader and a writer of some of the members of an object. -/
structure Part (α : Type) where
  /-- The members in order. -/
  members : List Member
  /-- Checks the members and reads the value they stand for. -/
  read : Origin → Members → Checked α
  /-- Writes the members of a value in one spelling. -/
  write : Spelling → α → Members

namespace Part

variable {α β : Type}

/-- A member that an object has to have. -/
def required (member : Member) (content : Content α) : Part α where
  members := [member]
  read origin members := match member.find? members with
    | some (key, value) => (content.read origin value).under (.key key)
    | none => .invalid [⟨.missing, [.key member.camel], .object members⟩]
  write spelling value := [(member.name spelling, content.write spelling value)]

/-- A member with the value it has when an object lacks it. -/
def withDefault (member : Member) (default : α) (content : Content α) : Part α where
  members := [member]
  read origin members := match member.find? members with
    | some (key, value) => (content.read origin value).under (.key key)
    | none => .valid default
  write spelling value := [(member.name spelling, content.write spelling value)]

/-- The members of two parts in order. -/
def both (left : Part α) (right : Part β) : Part (α × β) where
  members := left.members ++ right.members
  read origin members := Checked.both (left.read origin members) (right.read origin members)
  write spelling value := left.write spelling value.1 ++ right.write spelling value.2

/-- The members of one part for every attribute, in the order of the attributes. -/
def family {F : Attribute → Type} (part : (attr : Attribute) → Part (F attr)) :
    Part ((attr : Attribute) → F attr) where
  members := Attribute.all.flatMap fun attr => (part attr).members
  read origin members := Checked.family fun attr => (part attr).read origin members
  write spelling values := Attribute.all.flatMap fun attr =>
    (part attr).write spelling (values attr)

/-- The same members for the values of another type. -/
def iso (part : Part α) (pack : α → β) (unpack : β → α) : Part β where
  members := part.members
  read origin members := (part.read origin members).map pack
  write spelling value := part.write spelling (unpack value)

end Part

/-- A part that makes up a whole object, under the title the object is called by. -/
structure Shape (α : Type) where
  /-- The title. -/
  title : String
  /-- The members. -/
  part : Part α

namespace Shape

variable {α : Type}

/-- The fault of a value that is no object. -/
def notObject (shape : Shape α) : Origin → Fault
  | .caller => .notObject shape.title
  | .body => .notBodyObject

/-- Checks a value and reads the value it stands for. -/
def read (shape : Shape α) (origin : Origin) : Json → Checked α
  | .object members => shape.part.read origin members
  | value => .refuse (shape.notObject origin) value

/-- Writes a value as an object. -/
def write (shape : Shape α) (spelling : Spelling) (value : α) : Json :=
  .object (shape.part.write spelling value)

/-- Objects of the shape. -/
def content (shape : Shape α) : Content α := ⟨shape.read, shape.write⟩

/-- The names, in snake case, of the members that a value has, in the order of the shape. -/
def namesGiven (shape : Shape α) : Json → List String
  | .object members =>
    (shape.part.members.filter fun member => (member.find? members).isSome).map Member.snake
  | _ => []

end Shape

end SchemaDesk
