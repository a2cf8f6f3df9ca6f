import SchemaDesk.Http.Envelope
import SchemaDesk.Http.Route
import SchemaDesk.Json.Encoding
import SchemaDesk.Service
import SchemaDesk.Settings

/-!
# The application

The application answers requests by the model service. The body of a request is read and checked
before anything else is done, and a body with faults changes nothing. The answer to such a body
repeats the values at fault. An answer that cannot be written, as one that repeats a number that is
not finite cannot, gives way to the one for which nothing is prepared; what the request has changed
stays changed.
-/

namespace SchemaDesk

/-- The body of a request. -/
inductive Body where
  /-- No body. -/
  | empty
  /-- Bytes. -/
  | bytes (bytes : List UInt8)
  /-- A JSON value. -/
  | json (value : Json)

/-- A request to the application. -/
structure Request where
  /-- The method. -/
  method : Text
  /-- The path. -/
  path : Text
  /-- The body. -/
  body : Body := .empty

namespace Application

/-- An answer with one word on what went wrong. -/
def plainFailure (status : Nat) (message : Text) : Response :=
  ⟨status, .object [("detail", .string message)]⟩

/-- The answer for a path that is moved. It has no body. -/
def movedResponse : Response := ⟨307, .null⟩

/-- A step into a value in JSON. -/
def writeStep : Step → Json
  | .key key => .string key
  | .index index => .nat index

/-- A detail in JSON. -/
def writeDetail (detail : Detail) : Json :=
  .object [("type", .string detail.fault.code), ("loc", .array (detail.place.map writeStep)),
    ("msg", .string detail.fault.message)]

/-- The answer to a body with faults. -/
def refusal (details : List Detail) : Response :=
  if details.all (·.input.shared.isPlain) then
    ⟨422, .object [("detail", .array (details.map writeDetail))]⟩
  else Envelope.internalError

/-- The value of a body, none for an empty one. -/
def readBody : Body → Except Response (Option Json)
  | .empty => .ok none
  | .json value => .ok (some value)
  | .bytes [] => .ok none
  | .bytes bytes =>
    match Json.readBytes bytes with
    | .ok value => .ok (some value)
    | .error (.unread .malformed) => .error (refusal [⟨.notJson, [.key "body"], .object []⟩])
    | .error .undecodable | .error (.unread _) =>
      .error (plainFailure 400 "There was an error parsing the body")

/-- The value that a body of a shape stands for. -/
def readShape {α : Type} (shape : Shape α) (value : Json) : Except Response α :=
  match (shape.read .body value).under (.key "body") with
  | .valid value => .ok value
  | .invalid details => .error (refusal details)

/-- The value of a body that a request has to have. Only no body at all is a missing one; a body
`null` is a value that is no object. -/
def requiredBody {α : Type} (shape : Shape α) (body : Body) : Except Response α := do
  match ← readBody body with
  | none => .error (refusal [⟨.missing, [.key "body"], .null⟩])
  | some value => readShape shape value

/-- The value of a body that a request may leave out. -/
def optionalBody {α : Type} (shape : Shape α) (default : α) (body : Body) :
    Except Response α := do
  match ← readBody body with
  | none | some .null => .ok default
  | some value => readShape shape value

/-- What the service is asked by a request to an endpoint, and the status of a reply. Endpoints that
the service is not asked for have none. -/
def serviceRequest (endpoint : Endpoint) (parts : List Text) (body : Body) :
    Except Response (Option (ServiceRequest × Nat)) :=
  match endpoint, parts with
  | .render, _ => do
    return some (.render (← requiredBody Shape.renderRequest body), 200)
  | .createSession, _ => do
    let request ← optionalBody Shape.modelCreate {} body
    return some (.create (.valid request.name) request.fields, 201)
  | .rename, session :: _ => do
    let request ← requiredBody Shape.modelRename body
    return some (.rename session request.name, 200)
  | .addField, session :: _ => do
    return some (.add session (← optionalBody Shape.fieldCreate {} body), 201)
  | .updateField, session :: field :: _ => do
    return some (.update session field (← requiredBody Shape.fieldUpdate body), 200)
  | .removeField, session :: field :: _ => .ok (some (.remove session field, 200))
  | .reset, session :: _ => .ok (some (.reset session, 200))
  | .schema, session :: _ => .ok (some (.schema session, 200))
  | .getSession, session :: _ => .ok (some (.get session, 200))
  | .deleteSession, session :: _ => .ok (some (.delete session, 200))
  | _, _ => .ok none

/-- What an answer carries, in JSON. -/
def writePayload : Payload → Json
  | .nothing => .null
  | .model model => Shape.model.write .camel model
  | .session session => Shape.session.write .camel session
  | .schema schema => Shape.schemaText.write .camel schema

/-- The answer to a request that the service was asked. -/
def respond (status : Nat) : Service.Outcome → Response
  | .ok (.told payload message) => Envelope.success status (writePayload payload) (some message)
  | .ok (.saved model) => Envelope.success status (Shape.model.write .camel model) none
  | .error (.problem problem) => Envelope.ofProblem problem
  | .error (.refused _) | .error .noRoom => Envelope.internalError

/-- The answer to a request that the service is not asked. -/
def staticResponse (settings : Settings) : Endpoint → Response
  | .home => ⟨200, .object [("message", .string "🚀 Server is running!"),
      ("status", .string "healthy"), ("version", .string settings.projectVersion)]⟩
  | .health => ⟨200, .object [("status", .string "healthy"),
      ("message", .string "Service is running normally")]⟩
  | .types => Envelope.success 200 (.strings (ScalarType.all.map fun type => type.name))
      (some "Types retrieved successfully")
  | _ => plainFailure 404 "Not Found"

/-- What is answered to a request, whether it can be written or not. -/
def respondTo (settings : Settings) (request : Request) : StateM (Store Model) Response :=
  match Route.target settings.apiPrefix request.method request.path with
  | .unknown => return plainFailure 404 "Not Found"
  | .wrongMethod => return plainFailure 405 "Method Not Allowed"
  | .moved => return movedResponse
  | .endpoint endpoint parts =>
    match serviceRequest endpoint parts request.body with
    | .error response => return response
    | .ok none => return staticResponse settings endpoint
    | .ok (some (asked, status)) => do return respond status (← Service.models.answer asked)

/-- Answers a request. -/
def handle (settings : Settings) (request : Request) : StateM (Store Model) Response := do
  return (← respondTo settings request).orInternalError

/-- Answers requests one after another. -/
def handleAll (settings : Settings) (requests : List Request) :
    StateM (Store Model) (List Response) := requests.mapM (handle settings)

end Application

end SchemaDesk
