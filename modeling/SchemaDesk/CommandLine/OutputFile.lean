import SchemaDesk.Text.Pieces

/-!
# Places of output files

A path is gone through part by part from the working folder, or from the root when it begins with a
slash. Empty parts and single dots stay where they are, two dots lead to the folder above, and every
other part leads to the folder or file with its name. A file can only be written where the path
leads to no folder it has gone through, where every part is one that a file system takes, and where
not too many folders have to be made for it. The working folder is taken to be empty. Names are made
of bytes: characters in UTF-8, and single bytes that are no UTF-8, for which some of the halves of
surrogate pairs stand.
-/

namespace SchemaDesk.CommandLine

/-- Why a file cannot be written. -/
inductive OutputFault where
  /-- The path leads to a folder. -/
  | folder
  /-- The path holds a half of a surrogate pair that stands for no byte. -/
  | unencodable
  /-- The path holds the character that ends paths. -/
  | nullCharacter
  /-- The path or a part of it is too long. -/
  | tooLong
  /-- The path leads through too many folders that are not there. -/
  | tooDeep
deriving DecidableEq, Repr

/-- The message of an error. -/
def OutputFault.message : OutputFault → String
  | folder => "The path of the file leads to a folder"
  | unencodable => "The path of the file holds a code point that no name of a file can hold"
  | nullCharacter => "The path of the file holds a null character"
  | tooLong => "The path of the file is too long"
  | tooDeep => "The path of the file leads through too many new folders"

namespace OutputFile

/-- Where a path starts. -/
inductive Start where
  /-- At the root. -/
  | root
  /-- At the folder a number of steps above the working folder. -/
  | above (steps : Nat)
deriving DecidableEq, Repr

/-- A place: the names that lead to it from a start, the last name first. -/
structure Place where
  /-- The start. -/
  start : Start
  /-- The names. -/
  names : List Text
deriving DecidableEq, Repr

namespace Place

/-- The folder above a place. There is none above the root. -/
def parent (place : Place) : Place :=
  match place.names, place.start with
  | _ :: names, start => ⟨start, names⟩
  | [], .root => place
  | [], .above steps => ⟨.above (steps + 1), []⟩

/-- The place to which a part of a path leads. -/
def enter (place : Place) (part : Text) : Place :=
  if part = [] ∨ part = "." then place
  else if part = ".." then place.parent
  else { place with names := part :: place.names }

/-- The path from the working folder to a place below it. -/
def relative? (place : Place) : Option Text :=
  match place.start with
  | .above 0 => some (List.intercalate (Text.ofString "/") place.names.reverse)
  | _ => none

end Place

/-- The most bytes of a part of a path. -/
def maxPartSize : Nat := 255

/-- The most bytes of a path. -/
def maxPathSize : Nat := 4095

/-- The most folders that are made for one file. -/
def maxNewFolders : Nat := 980

/-- Whether a name can hold a code point. The halves from U+DC80 to U+DCFF stand for the bytes from
0x80 to 0xFF, and the others for none. -/
def isNameable : CodePoint → Bool
  | .char _ => true
  | .half offset => 0x480 ≤ offset.val && offset.val < 0x500

/-- The number of bytes of a code point that a name can hold. -/
def pointSize : CodePoint → Nat
  | .char c => c.utf8Size
  | .half _ => 1

/-- The number of bytes of a text. -/
def size (text : Text) : Nat := text.foldl (fun bytes point => bytes + pointSize point) 0

/-- The parts of a path. -/
def parts (path : Text) : List Text := path.cutAll '/'

/-- Whether a part leads to the folder or file with its name. -/
def isName (part : Text) : Bool := part ≠ [] ∧ part ≠ "." ∧ part ≠ ".."

/-- The number of folders not yet there that parts lead through, after so many bytes of the path and
after a name or not. From the first name on no folder is there, and none that only a path too long
leads to. -/
def newFolders (named : Bool) (passedSize : Nat) : List Text → Nat
  | [] => 0
  | part :: rest =>
    let named := named || isName part
    let pathSize := passedSize + size part
    (if part ≠ [] ∧ (named ∨ pathSize > maxPathSize) then 1 else 0) +
      newFolders named (pathSize + 1) rest

/-- What a part of a path is refused for, where the path up to its end has a number of bytes. -/
def partFault? (part : Text) (pathSize : Nat) : Option OutputFault :=
  if !part.all isNameable then some .unencodable
  else if .char '\x00' ∈ part then some .nullCharacter
  else if size part > maxPartSize ∨ pathSize > maxPathSize then some .tooLong
  else none

/-- Goes through the parts of a path from a place, after the folders gone through and a number of
bytes of the path. -/
def walk (place : Place) (passed : List Place) (passedSize : Nat) :
    List Text → Except OutputFault Place
  | [] => if place.names = [] ∨ place ∈ passed then .error .folder else .ok place
  | part :: rest =>
    match partFault? part (passedSize + size part) with
    | some fault => .error fault
    | none => walk (place.enter part) (place :: passed) (passedSize + size part + 1) rest

/-- The place of the file with a path. That too many folders have to be made is seen first. -/
def locate (path : Text) : Except OutputFault Place :=
  let start : Start := if path.head? = some (.char '/') then .root else .above 0
  if newFolders false 0 (parts path).dropLast > maxNewFolders then .error .tooDeep
  else walk ⟨start, []⟩ [] 0 (parts path)

/-- The text of a path up to its last slash: the path of the folder that holds the file, empty for
the working folder. -/
def folder (path : Text) : Text := (path.reverse.dropWhile (· ≠ .char '/')).reverse

/-- A file that is written. -/
structure File where
  /-- The path that leads to it. -/
  path : Text
  /-- The place to which the path leads. -/
  place : Place
  /-- The content. -/
  content : Text
deriving DecidableEq, Repr

/-- What there is of a file when its content is encoded: the file is empty where that fails. -/
def File.encoded (file : File) : File :=
  if file.content.isWhole then file else { file with content := [] }

end OutputFile

end SchemaDesk.CommandLine
