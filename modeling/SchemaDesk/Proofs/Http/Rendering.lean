import SchemaDesk.Http.Application
import SchemaDesk.Proofs.Block.Values
import SchemaDesk.Proofs.Http.Paths
import SchemaDesk.Proofs.Service.Records
import SchemaDesk.Proofs.Shape.Written
/-!
# Blocks with and without a session

The block of a model is answered to a request about its session, or to a request that brings the
model along. A request that brings along what was answered about the session is answered like the
request about the session (`Application.render_taken`): the model that is made anew has fields with
other identifiers and with the same values, and a block shows values only.
-/

namespace SchemaDesk

/-- A request for the block of a model that is made of the values of another one is answered with
the block of this one. -/
theorem Service.answer_render_values (service : Service) (model : Model) (store : Store Model) :
    (service.answer (.render
      ⟨model.name, model.fields.map fun field => Changes.ofValues field.value⟩) store).1 =
      rendered model := by
  have blueprints : newModel (.valid model.name)
      (some (model.fields.map fun field => Changes.ofValues field.value)) =
      Model.create (.ok model.name) (some ((model.fields.map (·.value)).map .of)) := by
    simp only [newModel, Option.map_some, List.map_map]
    refine congrArg (fun fields => Model.create (.ok model.name) (some fields)) ?_
    refine List.map_congr_left fun field _ => ?_
    simp only [Function.comp_apply, Model.blueprint, Changes.applyTo_ofValues]
  obtain ⟨made, after, ran, name, values⟩ := Model.run_create_of ServiceError model.name
    (model.fields.map (·.value)) store.draws
  rw [answer_render, blueprints, ran]
  simp only [rendered, Block.render_eq_of_values name values, name]

/-- The member of an object with a key. -/
def Json.member? (key : Text) : Json → Option Json
  | .object members => (members.find? (·.1 = key)).map Prod.snd
  | _ => none

namespace Response

/-- The name and the fields of the model that an answer carries. -/
def taken (response : Response) : Option (Json × Json) := do
  let data ← response.body.member? "data"
  return (← data.member? "name", ← data.member? "fields")

end Response

/-- A request to an endpoint. -/
def Request.to (settings : Settings) (endpoint : Endpoint) (parts : List Text)
    (body : Body := .empty) : Request :=
  ⟨endpoint.method, Route.path settings.apiPrefix endpoint parts, body⟩

namespace Application

variable {settings : Settings} {endpoint : Endpoint} {parts : List Text} {body : Body}
  {asked : ServiceRequest} {status : Nat} {session : Text} {model : Model}

/-- A request to an endpoint that the service is asked for is answered like the service answers. -/
theorem handle_to (fits : Segment.Fits endpoint.segments parts)
    (requested : serviceRequest endpoint parts body = .ok (some (asked, status)))
    (store : Store Model) :
    handle settings (.to settings endpoint parts body) store =
      ((respond status (Service.models.answer asked store).1).orInternalError,
        (Service.models.answer asked store).2) := by
  have target := Route.target_path settings.apiPrefix fits
  simp only [handle, respondTo, Request.to, target, requested]
  rfl

/-- An answer with what is asked for can be written when this and the message can. -/
theorem isWritable_success (status : Nat) (data : Json) (message : Text) :
    (Envelope.success status data (some message)).isWritable =
      (message.isWhole && data.isPlain) := by
  simp only [Response.isWritable, Envelope.success, Json.orNull, Json.isPlain,
    Json.allMembersPlain, Text.isWhole_ofString, Bool.true_and, Bool.and_true]

/-- A session that is not empty and holds no slash fits the path of its model. -/
theorem fits_getSession (filled : session ≠ []) (free : .char '/' ∉ session) :
    Segment.Fits Endpoint.getSession.segments [session] :=
  .word _ (.part filled free .nil)

/-- A request for the model of a session that is there. -/
theorem handle_getSession {store : Store Model}
    (fits : Segment.Fits Endpoint.getSession.segments [session])
    (found : store.get? session = some model) :
    (handle settings (.to settings .getSession [session]) store).1 =
      (Envelope.success 200 (Shape.model.write .camel model)
        (some "Model retrieved successfully")).orInternalError := by
  have requested : serviceRequest .getSession [session] .empty =
      .ok (some (.get session, 200)) := rfl
  rw [handle_to fits requested, Service.answer_get, found]
  rfl

/-- A request for the block of the model of a session that is there. -/
theorem handle_schema {store : Store Model}
    (fits : Segment.Fits Endpoint.getSession.segments [session])
    (found : store.get? session = some model) :
    (handle settings (.to settings .schema [session]) store).1 =
      (respond 200 (Service.rendered model)).orInternalError := by
  have requested : serviceRequest .schema [session] .empty =
      .ok (some (.schema session, 200)) := rfl
  have fits : Segment.Fits Endpoint.schema.segments [session] := by
    cases fits with
    | word _ fits =>
      cases fits with
      | part some free _ => exact .word _ (.part some free (.word _ .nil))
  rw [handle_to fits requested, Service.answer_schema, found]

/-- A request for the block of a model that is written in the request. -/
theorem handle_render (model : Model) (store : Store Model) :
    (handle settings (.to settings .render [] (.json (Shape.model.write .camel model))) store).1 =
      (respond 200 (Service.rendered model)).orInternalError := by
  let asked : RenderRequest :=
    ⟨model.name, model.fields.map fun field => Changes.ofValues field.value⟩
  have read : readShape Shape.renderRequest (Shape.model.write .camel model) = .ok asked := by
    rw [readShape, Shape.read_renderRequest]
    rfl
  have required : requiredBody Shape.renderRequest (.json (Shape.model.write .camel model)) =
      .ok asked := read
  have requested : serviceRequest .render [] (.json (Shape.model.write .camel model)) =
      .ok (some (.render asked, 200)) := by
    rw [serviceRequest, required]
    rfl
  have fits : Segment.Fits Endpoint.render.segments [] := .word _ .nil
  rw [handle_to fits requested, Service.answer_render_values]

/-- The answer to a request for a block carries no fields. -/
theorem taken_rendered (status : Nat) (model : Model) :
    (respond status (Service.rendered model)).taken = none := by
  rw [Service.rendered]
  cases Block.render model with
  | ok text => rfl
  | error error => rfl

/-- The fixed answers carry no model. -/
theorem taken_static (settings : Settings) (endpoint : Endpoint) :
    (staticResponse settings endpoint).taken = none := by
  cases endpoint <;> rfl

/-- An answer that carries a model is written as it is. -/
theorem orInternalError_of_taken {response : Response} {taken : Json × Json}
    (carries : response.orInternalError.taken = some taken) :
    response.orInternalError = response := by
  rw [Response.orInternalError] at carries ⊢
  split
  · rfl
  · next unwritable =>
    rw [if_neg unwritable] at carries
    cases carries

/-- Only the model of a session is answered with a name and fields to a request for it, under a
path that stands for this session. -/
theorem taken_getSession {store : Store Model} {taken : Json × Json}
    (carries : (handle settings (.to settings .getSession [session]) store).1.taken = some taken) :
    Segment.Fits Endpoint.getSession.segments [session] ∧
      ∃ model, store.get? session = some model ∧
        taken = (.string model.name, .array (model.fields.map (Shape.field.write .camel))) := by
  have written : (handle settings (.to settings .getSession [session]) store).1 =
      (respondTo settings (.to settings .getSession [session]) store).1 :=
    orInternalError_of_taken carries
  rw [written] at carries
  cases target : Route.target settings.apiPrefix (Text.ofString Endpoint.getSession.method)
      (Route.path settings.apiPrefix .getSession [session]) with
  | unknown | wrongMethod | moved =>
    simp only [respondTo, Request.to, target] at carries
    cases carries
  | endpoint endpoint parts =>
    simp only [respondTo, Request.to, target] at carries
    have method := Text.ofString_inj.mp (Route.candidates_of_target target).1
    -- With a slash in the text of the session, the path can be the one of another endpoint.
    cases endpoint with
    | render | createSession | rename | addField | updateField | removeField | reset
    | deleteSession => exact absurd method (by decide)
    | home | health | types => cases (taken_static settings _).symm.trans carries
    | schema =>
      cases parts with
      | nil => cases carries
      | cons asked rest =>
        have answered : (respond 200 (Service.models.answer (.schema asked) store).1).taken =
            some taken := carries
        rw [Service.answer_schema] at answered
        cases found : store.get? asked with
        | none =>
          rw [found] at answered
          cases answered
        | some model =>
          rw [found] at answered
          cases (taken_rendered 200 model).symm.trans answered
    | getSession =>
      obtain ⟨fits, rfl⟩ := Route.fits_of_target target
      have answered : (respond 200 (Service.models.answer (.get session) store).1).taken =
          some taken := carries
      rw [Service.answer_get] at answered
      cases found : store.get? session with
      | none =>
        rw [found] at answered
        cases answered
      | some model =>
        rw [found] at answered
        exact ⟨fits, model, rfl, (Option.some.inj answered).symm⟩

/-- The model of a session is asked for and taken from the answer, and posted for its block:

* the model of every session is answered if its texts are whole and the identifier of the session
  can stand in a path;
* the answer to what is posted is that to the request for the block of the session, whatever has
  happened to the sessions and whatever identifiers are drawn. -/
theorem render_taken (settings : Settings) (session : Text) (store later : Store Model) :
    let got := (handle settings (.to settings .getSession [session]) store).1
    (∀ model, store.get? session = some model → model.isWhole = true → session ≠ [] →
      .char '/' ∉ session →
        got = Envelope.success 200 (Shape.model.write .camel model)
          (some "Model retrieved successfully") ∧
        got.taken =
          some (.string model.name, .array (model.fields.map (Shape.field.write .camel)))) ∧
    ∀ name fields, got.taken = some (name, fields) →
      (handle settings (.to settings .render []
        (.json (.object [("name", name), ("fields", fields)]))) later).1 =
          (handle settings (.to settings .schema [session]) store).1 := by
  intro got
  constructor
  · intro model found whole filled free
    have answered : got = _ := handle_getSession (fits_getSession filled free) found
    have writable : (Envelope.success 200 (Shape.model.write .camel model)
        (some "Model retrieved successfully")).isWritable = true := by
      rw [isWritable_success, Text.isWhole_ofString, Model.isPlain_write, whole]
      rfl
    rw [Response.orInternalError, if_pos writable] at answered
    exact ⟨answered, congrArg Response.taken answered⟩
  · intro name fields carries
    obtain ⟨fits, model, found, taken⟩ := taken_getSession carries
    obtain ⟨rfl, rfl⟩ := Prod.mk.inj taken
    exact (handle_render model later).trans (handle_schema fits found).symm

/-- A store with one session. -/
def drafted : Store Model where
  limit := 0
  items := Table.empty.put "a"
    { name := " Post", fields := [{ id := "x", name := "title" }, { id := "x", isId := true }] }
  locks := Table.empty.put "a" 0
  nextLock := 1
  draws := ⟨["a"], 1⟩

/-- What is answered for the model of the session can be posted to a service without sessions, and
is answered with a block as the session is. -/
theorem render_taken_drafted :
    ∃ name fields,
      (handle {} ⟨"GET", "/api/v1/models/a", .empty⟩ drafted).1.taken = some (name, fields) ∧
      (handle {} ⟨"POST", "/api/v1/render", .json (.object [("name", name), ("fields", fields)])⟩
        ⟨0, .empty, .empty, 0, ⟨["y", "y"], 0⟩⟩).1 =
          (handle {} ⟨"GET", "/api/v1/models/a/schema", .empty⟩ drafted).1 ∧
      (handle {} ⟨"GET", "/api/v1/models/a/schema", .empty⟩ drafted).1.status = 200 := by
  have model : ∃ model, drafted.get? "a" = some model ∧ model.isWhole = true := by
    exact ⟨_, rfl, by decide +kernel⟩
  obtain ⟨model, found, whole⟩ := model
  obtain ⟨answered, agrees⟩ :=
    render_taken {} "a" drafted ⟨0, .empty, .empty, 0, ⟨["y", "y"], 0⟩⟩
  have carries := (answered model found whole (by decide) (by decide)).2
  have get : Route.path "/api/v1" .getSession ["a"] = Text.ofString "/api/v1/models/a" := by
    decide +kernel
  have post : Route.path "/api/v1" .render [] = Text.ofString "/api/v1/render" := by
    decide +kernel
  have schema : Route.path "/api/v1" .schema ["a"] = Text.ofString "/api/v1/models/a/schema" := by
    decide +kernel
  have same := agrees _ _ carries
  simp only [Request.to] at carries same
  rw [get] at carries
  rw [post, schema] at same
  exact ⟨_, _, carries, same, by decide +kernel⟩

end Application

end SchemaDesk
