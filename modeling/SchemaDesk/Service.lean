import SchemaDesk.Problem
import SchemaDesk.Session.Schedule
import SchemaDesk.Shape.Domain

/-!
# The model service

The service keeps models in sessions and answers requests about them. A request that changes a
model takes the lock of its session, edits the model it sees and saves the result; every other
request is done at once. Answers carry a message that names what the sessions hold.
-/

namespace SchemaDesk

/-- What an answer carries. -/
inductive Payload where
  /-- Nothing. -/
  | nothing
  /-- A model. -/
  | model (model : Model)
  /-- A new session. -/
  | session (session : SessionModel)
  /-- The block of a model. -/
  | schema (schema : SchemaText)
deriving DecidableEq, Repr

/-- The answer to a request that is met. -/
inductive Reply where
  /-- What is asked for, with a message. -/
  | told (payload : Payload) (message : Text)
  /-- The model saved for a session. -/
  | saved (model : Model)
deriving DecidableEq, Repr

/-- Why a request is not met. -/
inductive ServiceError where
  /-- There is a problem. -/
  | problem (problem : Problem)
  /-- A value of the request has faults. -/
  | refused (details : List Detail)
  /-- No room can be made for a session. -/
  | noRoom
deriving Repr

/-- A request to the service. -/
inductive ServiceRequest where
  /-- Creates a session with a model; the name may have faults. -/
  | create (name : Checked Text) (fields : Option (List Changes))
  /-- Creates a session for a model that is given. -/
  | createFor (model : Model)
  /-- Asks for the model of a session. -/
  | get (session : Text)
  /-- Drops a session. -/
  | delete (session : Text)
  /-- Gives the model of a session another name. -/
  | rename (session name : Text)
  /-- Adds a field to the model of a session. -/
  | add (session : Text) (attributes : Changes)
  /-- Changes a field of the model of a session. -/
  | update (session field : Text) (changes : Changes)
  /-- Removes a field from the model of a session. -/
  | remove (session field : Text)
  /-- Starts the model of a session over. -/
  | reset (session : Text)
  /-- Asks for the block of the model of a session. -/
  | schema (session : Text)
  /-- Asks for the block of a model that no session holds. -/
  | render (request : RenderRequest)
  /-- Replaces the model of a session. -/
  | save (session : Text) (model : Model)
  /-- A request of which a value has faults. -/
  | refused (details : List Detail)

/-- A service, by what its sessions hold. -/
structure Service where
  /-- The name of what a session holds, in messages. -/
  entity : Text
  /-- The name of the member with what a session holds, in answers. -/
  member : Text

namespace Service

/-- The service that keeps models. -/
def models : Service := ⟨"Model", "model"⟩

/-- The service that keeps items without a name of their own. -/
def items : Service := ⟨"Item", "item"⟩

/-- The outcome of a request. -/
abbrev Outcome : Type := Except ServiceError Reply

/-- The outcome for a session that is not there. -/
def notFound (service : Service) (session : Text) : ServiceError :=
  .problem ⟨.notFound, service.entity ++ " session " ++ session ++ " not found", some "session_id"⟩

/-- The outcome when a model cannot be saved because its session is not there. -/
def notSaved (session : Text) : ServiceError :=
  .problem ⟨.service, "Session " ++ session ++ " does not exist", none⟩

/-- Creates a session for a model. -/
def createSession (service : Service) (model : Model) : StateM (Store Model) Outcome := do
  match ← Store.create model with
  | some session =>
    return .ok (.told (.session ⟨session, model⟩)
      (service.entity ++ " session created successfully"))
  | none => return .error .noRoom

/-- The model of a request to create one. -/
def newModel (name : Checked Text) (fields : Option (List Changes)) :
    Drawing ServiceError Model :=
  Model.create (name.toExcept.mapError fun details =>
    .refused (details.map (Detail.under (.key "name"))))
    (fields.map fun given => given.map Model.blueprint)

/-- The block of a model, with the trimmed name. -/
def rendered (model : Model) : Outcome :=
  match Block.render model with
  | .ok text =>
    .ok (.told (.schema ⟨model.name.trim, text⟩) "Schema generated successfully")
  | .error error => .error (.problem error.problem)

/-- Edits the model that a task sees and saves the result; the message tells what was done. -/
def editSeen (service : Service) (session : Text) (message : Text)
    (edit : Model → Drawing ServiceError Model) : Option Model → StateM (Store Model) Outcome
  | none => return .error (service.notFound session)
  | some model => do
    match ← Store.drawing (edit model) with
    | .error error => return .error error
    | .ok edited =>
      if ← Store.save session edited then return .ok (.told (.model edited) message)
      else return .error (notSaved session)

/-- A work that edits the model of a session with its lock taken. -/
def editing (service : Service) (session : Text) (message : Text)
    (edit : Model → Drawing ServiceError Model) : Work Model Outcome :=
  .locked session (service.editSeen session message edit)

/-- The work of a request. -/
def work (service : Service) : ServiceRequest → Work Model Outcome
  | .create name fields => .plain do
    match ← Store.drawing (newModel name fields) with
    | .ok model => service.createSession model
    | .error error => return .error error
  | .createFor model => .plain (service.createSession model)
  | .get session => .plain fun store =>
    (match store.get? session with
      | some model => .ok (.told (.model model) (service.entity ++ " retrieved successfully"))
      | none => .error (service.notFound session), store)
  | .delete session => .plain do
    if ← Store.delete session then
      return .ok (.told .nothing (service.entity ++ " session deleted successfully"))
    else return .error (service.notFound session)
  | .rename session name => service.editing session "Model renamed successfully" fun model =>
    return model.rename name
  | .add session attributes => service.editing session "Field added successfully" fun model =>
    model.addField (Model.blueprint attributes)
  | .update session field changes =>
    service.editing session "Field updated successfully" fun model =>
      ExceptT.mk (pure (model.updateField field (.ok changes)))
  | .remove session field => service.editing session "Field removed successfully" fun model =>
    return model.removeField field
  | .reset session => service.editing session "Model reset successfully" fun _ => Model.reset
  | .schema session => .plain fun store =>
    (match store.get? session with
      | some model => rendered model
      | none => .error (service.notFound session), store)
  | .render request => .plain do
    match ← Store.drawing (newModel (.valid request.name) (some request.fields)) with
    | .ok model => return rendered model
    | .error error => return .error error
  | .save session model => .plain do
    if ← Store.save session model then return .ok (.saved model)
    else return .error (notSaved session)
  | .refused details => .plain (return .error (.refused details))

/-- Answers a request while nothing else goes on. -/
def answer (service : Service) (request : ServiceRequest) : StateM (Store Model) Outcome :=
  (service.work request).alone

/-- Answers requests while a task holds the lock of a session. -/
def whileLocked (service : Service) (session : Text) (pending during : List ServiceRequest) :
    StateM (Store Model) (Schedule.Held Model Outcome) :=
  Schedule.whileLocked session (pending.map fun request => .single (service.work request))
    (during.map fun request => .single (service.work request))

end Service

end SchemaDesk
