import SchemaDesk.Text.Pieces

/-!
# Routes

A route is a method and a pattern of path segments. A segment of a pattern is a word, or a part that
any text but the empty one fits. A path that ends in a word may have one line feed after it. A path
that fits no pattern is moved when it would fit one without the slashes at its end. The pages that
describe the interface, at `/docs`, `/redoc` and `/openapi.json`, are left out.
-/

namespace SchemaDesk

/-- What a request can be about. -/
inductive Endpoint where
  /-- The home of the application. -/
  | home
  /-- Its health. -/
  | health
  /-- The list of scalar types. -/
  | types
  /-- The block of a model that no session holds. -/
  | render
  /-- A new session. -/
  | createSession
  /-- Another name for the model of a session. -/
  | rename
  /-- A new field. -/
  | addField
  /-- Changes to a field. -/
  | updateField
  /-- The removal of a field. -/
  | removeField
  /-- A new start. -/
  | reset
  /-- The block of the model of a session. -/
  | schema
  /-- The model of a session. -/
  | getSession
  /-- The end of a session. -/
  | deleteSession
deriving DecidableEq, Repr

/-- A segment of a pattern. -/
inductive Segment where
  /-- A word. -/
  | word (word : Text)
  /-- A part that any text but the empty one fits. -/
  | part
deriving DecidableEq, Repr

namespace Endpoint

/-- All endpoints. -/
def all : List Endpoint :=
  [home, health, types, render, createSession, rename, addField, updateField, removeField, reset,
    schema, getSession, deleteSession]

/-- The method of an endpoint. -/
def method : Endpoint → String
  | home | health | types | schema | getSession => "GET"
  | render | createSession | addField | reset => "POST"
  | rename => "PUT"
  | updateField => "PATCH"
  | removeField | deleteSession => "DELETE"

/-- Whether the path of an endpoint begins like all paths of the interface. -/
def isUnderRoot : Endpoint → Bool
  | home | health => false
  | _ => true

/-- The segments of the path of an endpoint after its beginning. -/
def segments : Endpoint → List Segment
  | home => [.word ""]
  | health => [.word "health"]
  | types => [.word "types"]
  | render => [.word "render"]
  | createSession => [.word "models"]
  | rename => [.word "models", .part, .word "name"]
  | addField => [.word "models", .part, .word "fields"]
  | updateField | removeField => [.word "models", .part, .word "fields", .part]
  | reset => [.word "models", .part, .word "reset"]
  | schema => [.word "models", .part, .word "schema"]
  | getSession | deleteSession => [.word "models", .part]

end Endpoint

namespace Route

/-- The texts between the slashes of a path that begins with one. -/
def split? : Text → Option (List Text)
  | .char '/' :: rest => some (Text.cutAll '/' rest)
  | _ => none

/-- The parts of a path that fits a pattern. -/
def matchParts? : List Segment → List Text → Option (List Text)
  | [], [] => some []
  | [.word word], [text] => if text = word ∨ text = word ++ [.char '\n'] then some [] else none
  | .word word :: pattern, text :: rest =>
    if text = word then matchParts? pattern rest else none
  | .part :: pattern, text :: rest =>
    if text = [] then none else (matchParts? pattern rest).map (text :: ·)
  | _, _ => none

/-- The pattern of an endpoint, where the paths of the interface have a common beginning. -/
def pattern (root : Text) (endpoint : Endpoint) : List Segment :=
  (if endpoint.isUnderRoot then ((split? root).getD []).map .word else []) ++ endpoint.segments

/-- What the path and method of a request are about. -/
inductive Target where
  /-- An endpoint, with the parts of the path. -/
  | endpoint (endpoint : Endpoint) (parts : List Text)
  /-- A path that some endpoint has, but none with the method. -/
  | wrongMethod
  /-- A path that no endpoint has, but one has the path without the slashes at its end. -/
  | moved
  /-- A path that no endpoint has. -/
  | unknown
deriving DecidableEq, Repr

/-- The endpoints whose path a path is, with the parts. -/
def candidates (root path : Text) : List (Endpoint × List Text) :=
  match split? path with
  | none => []
  | some texts => Endpoint.all.filterMap fun endpoint =>
    (matchParts? (pattern root endpoint) texts).map (endpoint, ·)

/-- The path that could be meant by one that no endpoint has: the path without the slashes at its
end, or the home for the empty path. -/
def meant (path : Text) : Text :=
  if path = [] then "/" else (path.reverse.dropWhile (· = .char '/')).reverse

/-- What a request is about. -/
def target (root method path : Text) : Target :=
  match (candidates root path).find? (Text.ofString ·.1.method == method) with
  | some (endpoint, parts) => .endpoint endpoint parts
  | none =>
    if !(candidates root path).isEmpty then .wrongMethod
    else if !(candidates root (meant path)).isEmpty then .moved
    else .unknown

end Route

end SchemaDesk
