import SchemaDesk.Proofs.Http.Rendering
import SchemaDesk.Proofs.Service.Settled
import SchemaDesk.Proofs.Shape.Whole
/-!
# Requests that fail change nothing

A body is checked before the service is asked, and the service changes a session only for a request
that it meets. An answer that cannot be written would come too late to take a change back; but all
texts are whole, in the sessions as in the requests, so every answer of the service can be written
(`Application.respond_told`). Hence an answer that is no success leaves the sessions as they
are, and a body that is accepted fails only for want of a block
(`Application.Reachable.failure_unchanged`).
-/

namespace SchemaDesk

/-- Whether the status of an answer tells of a success. -/
def Response.IsSuccess (response : Response) : Prop :=
  200 ≤ response.status ∧ response.status < 300

/-- Whether a response is a success is told by its status. -/
instance (response : Response) : Decidable response.IsSuccess :=
  inferInstanceAs (Decidable (200 ≤ response.status ∧ response.status < 300))

/-- Whether the strings of a body have no halves of characters. Bytes that give no value have no
strings. -/
def Body.IsWhole (body : Body) : Prop :=
  ∀ value, Application.readBody body = .ok (some value) → value.isWhole = true

open Application in
/-- Whether a body is accepted at an endpoint: where the endpoint takes one, it is read and its
shape is valid. -/
def Endpoint.Accepts (body : Body) : Endpoint → Prop
  | .render => ∃ request, requiredBody Shape.renderRequest body = .ok request
  | .createSession => ∃ request, optionalBody Shape.modelCreate {} body = .ok request
  | .rename => ∃ request, requiredBody Shape.modelRename body = .ok request
  | .addField => ∃ changes, optionalBody Shape.fieldCreate {} body = .ok changes
  | .updateField => ∃ changes, requiredBody Shape.fieldUpdate body = .ok changes
  | _ => True

/-! ## Bodies -/

namespace Application

variable {α : Type} {shape : Shape α} {property : α → Prop} {body : Body} {value : α}

/-- What a shape reads from a whole body has the property of what it reads from whole values. -/
theorem readShape_of_whole (reads : shape.content.ReadsWhole property) {json : Json}
    (whole : json.isWhole = true) (read : readShape shape json = .ok value) : property value := by
  rw [readShape] at read
  split at read
  next inner valid =>
    obtain rfl := Except.ok.inj read
    exact reads .body json inner whole (Checked.under_eq_valid valid)
  next => cases read

/-- What is read from a whole body has the property that whole values give. -/
theorem requiredBody_of_whole (reads : shape.content.ReadsWhole property) (whole : body.IsWhole)
    (read : requiredBody shape body = .ok value) : property value := by
  rw [requiredBody] at read
  cases given : readBody body with
  | error response => rw [given] at read; cases read
  | ok json? =>
    rw [given] at read
    cases json? with
    | none => cases read
    | some json => exact readShape_of_whole reads (whole json given) read

/-- What is read from a whole body, or the default, has the property that whole values give. -/
theorem optionalBody_of_whole (reads : shape.content.ReadsWhole property) {default : α}
    (holds : property default) (whole : body.IsWhole)
    (read : optionalBody shape default body = .ok value) : property value := by
  rw [optionalBody] at read
  cases given : readBody body with
  | error response => rw [given] at read; cases read
  | ok json? =>
    rw [given] at read
    cases json? with
    | none => exact Except.ok.inj read ▸ holds
    | some json =>
      by_cases null : json = .null
      · subst null
        exact Except.ok.inj read ▸ holds
      · have read : readShape shape json = .ok value := by
          cases json with
          | null => exact absurd rfl null
          | _ => exact read
        exact readShape_of_whole reads (whole json given) read

/-! ## What the service is asked -/

/-- What is made of a value that is read is made of some value. -/
theorem of_read {ε β γ : Type} {outcome : Except ε β} {next : β → γ} {result : γ}
    (done : (do return next (← outcome)) = Except.ok result) :
    ∃ value, outcome = .ok value ∧ next value = result := by
  cases outcome with
  | error error => cases done
  | ok value => exact ⟨value, rfl, Except.ok.inj done⟩

/-- What the service is asked by a request: whole texts, about the session in the path, with the
status of a success; and the block of a model at two endpoints only. -/
structure Fitting (endpoint : Endpoint) (parts : List Text) (asked : ServiceRequest)
    (status : Nat) : Prop where
  /-- The texts are whole. -/
  whole : asked.IsWhole
  /-- The status of the answer to a request that is met tells of a success. -/
  success : 200 ≤ status ∧ status < 300
  /-- The session is the one in the path. -/
  session : ∀ session, asked.session? = some session → session ∈ parts.head?
  /-- The endpoint is one of the two that are for blocks. -/
  block : asked.asksBlock = true → endpoint = .schema ∨ endpoint = .render

variable {endpoint : Endpoint} {parts : List Text} {asked : ServiceRequest} {status : Nat}

/-- A request with a whole body asks the service for something fitting. -/
theorem fitting_serviceRequest (whole : body.IsWhole)
    (requested : serviceRequest endpoint parts body = .ok (some (asked, status))) :
    Fitting endpoint parts asked status := by
  have success : ∀ {status : Nat}, status = 200 ∨ status = 201 → 200 ≤ status ∧ status < 300 := by
    omega
  cases endpoint with
  | home | health | types => cases parts <;> cases requested
  | render =>
    obtain ⟨request, read, made⟩ := of_read requested
    cases made
    have given := requiredBody_of_whole Shape.readsWhole_renderRequest whole read
    exact ⟨given, success (.inl rfl), nofun, fun _ => .inr rfl⟩
  | createSession =>
    obtain ⟨request, read, made⟩ := of_read requested
    cases made
    have given := optionalBody_of_whole Shape.readsWhole_modelCreate
      ⟨rfl, fun _ mem => absurd mem (Option.not_mem_none _)⟩ whole read
    exact ⟨⟨⟨request.name, rfl, given.1⟩, given.2⟩, success (.inr rfl), nofun, nofun⟩
  | rename =>
    cases parts with
    | nil => cases requested
    | cons session rest =>
      obtain ⟨request, read, made⟩ := of_read requested
      cases made
      have given := requiredBody_of_whole Shape.readsWhole_modelRename whole read
      exact ⟨given, success (.inl rfl), fun _ same => same, nofun⟩
  | addField =>
    cases parts with
    | nil => cases requested
    | cons session rest =>
      obtain ⟨changes, read, made⟩ := of_read requested
      cases made
      have given :=
        optionalBody_of_whole Shape.readsWhole_fieldCreate Changes.isWhole_none whole read
      exact ⟨given, success (.inr rfl), fun _ same => same, nofun⟩
  | updateField =>
    match parts with
    | [] => cases requested
    | [_] => cases requested
    | session :: field :: rest =>
      obtain ⟨changes, read, made⟩ := of_read requested
      cases made
      have given := requiredBody_of_whole Shape.readsWhole_fieldUpdate whole read
      exact ⟨given, success (.inl rfl), fun _ same => same, nofun⟩
  | removeField =>
    match parts with
    | [] => cases requested
    | [_] => cases requested
    | session :: field :: rest =>
      cases requested
      exact ⟨trivial, success (.inl rfl), fun _ same => same, nofun⟩
  | reset | getSession | deleteSession =>
    cases parts with
    | nil => cases requested
    | cons session rest =>
      cases requested
      exact ⟨trivial, success (.inl rfl), fun _ same => same, nofun⟩
  | schema =>
    cases parts with
    | nil => cases requested
    | cons session rest =>
      cases requested
      exact ⟨trivial, success (.inl rfl), fun _ same => same, fun _ => .inl rfl⟩

/-- A body that is accepted makes the service be asked at every endpoint of the interface, the list
of types apart. -/
theorem serviceRequest_of_accepts (accepted : endpoint.Accepts body)
    (under : endpoint.isUnderRoot = true) (other : endpoint ≠ .types)
    (length : parts.length = endpoint.segments.count .part) :
    ∃ asked status, serviceRequest endpoint parts body = .ok (some (asked, status)) := by
  cases endpoint with
  | home | health => cases under
  | types => exact absurd rfl other
  | render | createSession =>
    obtain ⟨request, read⟩ := accepted
    rw [serviceRequest, read]
    exact ⟨_, _, rfl⟩
  | rename | addField =>
    obtain ⟨session, rfl⟩ := List.length_eq_one_iff.mp length
    obtain ⟨request, read⟩ := accepted
    rw [serviceRequest, read]
    exact ⟨_, _, rfl⟩
  | updateField =>
    obtain ⟨session, field, rfl⟩ := List.length_eq_two.mp length
    obtain ⟨request, read⟩ := accepted
    rw [serviceRequest, read]
    exact ⟨_, _, rfl⟩
  | removeField =>
    obtain ⟨session, field, rfl⟩ := List.length_eq_two.mp length
    exact ⟨_, _, rfl⟩
  | reset | schema | getSession | deleteSession =>
    obtain ⟨session, rfl⟩ := List.length_eq_one_iff.mp length
    exact ⟨_, _, rfl⟩

/-! ## Answers -/

/-- What an answer of whole texts carries can be written. -/
theorem isPlain_writePayload {payload : Payload} (whole : payload.IsWhole) :
    (writePayload payload).isPlain = true := by
  cases payload with
  | nothing => rfl
  | model model => exact (Model.isPlain_write .camel model).trans whole
  | session created =>
    have written : writePayload (.session created) =
        .object [(Text.ofString "sessionId", .string created.session),
          (Text.ofString "model", Shape.model.write .camel created.model)] := rfl
    simp only [written, Json.isPlain, Json.allMembersPlain, Text.isWhole_ofString,
      Model.isPlain_write, whole.1, whole.2, Bool.and_self]
  | schema shown =>
    have written : writePayload (.schema shown) =
        .object [(Text.ofString "name", .string shown.name),
          (Text.ofString "schemaText", .string shown.text)] := rfl
    simp only [written, Json.isPlain, Json.allMembersPlain, Text.isWhole_ofString, whole.1, whole.2,
      Bool.and_self]

/-- The answer to a request that is met can be written. -/
theorem respond_told {payload : Payload} (whole : payload.IsWhole) {message : Text}
    (worded : message.isWhole = true) (status : Nat) :
    (respond status (.ok (.told payload message))).orInternalError =
      Envelope.success status (writePayload payload) (some message) := by
  have writable : (respond status (.ok (.told payload message))).isWritable = true := by
    rw [respond, isWritable_success, worded, isPlain_writePayload whole]
    rfl
  rw [Response.orInternalError, if_pos writable, respond]

/-- The answer when a model has no block. -/
theorem respond_unwritable (error : BlockError) (status : Nat) :
    (respond status (.error (.problem error.problem))).orInternalError =
      Envelope.ofProblem error.problem := by
  cases error <;> rfl

/-! ## Requests and the store -/

variable {settings : Settings} {request : Request} {store : Store Model}

/-- The name of what the service keeps is whole. -/
theorem isWhole_entity : Service.models.entity.isWhole = true := by decide

/-- A request by which the service is asked for something is answered like the service answers. -/
theorem handle_requested
    (target : Route.target settings.apiPrefix request.method request.path =
      .endpoint endpoint parts)
    (requested : serviceRequest endpoint parts request.body = .ok (some (asked, status)))
    (store : Store Model) : handle settings request store =
      ((respond status (Service.models.answer asked store).1).orInternalError,
        (Service.models.answer asked store).2) := by
  simp only [handle, respondTo, target, requested]
  rfl

/-- A request changes nothing, or the service is asked for something. -/
theorem handle_cases (settings : Settings) (request : Request) (store : Store Model) :
    (handle settings request store).2 = store ∨ ∃ endpoint parts asked status,
      Route.target settings.apiPrefix request.method request.path = .endpoint endpoint parts ∧
        serviceRequest endpoint parts request.body = .ok (some (asked, status)) ∧
          handle settings request store =
            ((respond status (Service.models.answer asked store).1).orInternalError,
              (Service.models.answer asked store).2) := by
  cases target : Route.target settings.apiPrefix request.method request.path with
  | unknown | wrongMethod | moved =>
    left
    simp only [handle, respondTo, target]
    rfl
  | endpoint endpoint parts =>
    cases requested : serviceRequest endpoint parts request.body with
    | error response =>
      left
      simp only [handle, respondTo, target, requested]
      rfl
    | ok asked? =>
      cases asked? with
      | none =>
        left
        simp only [handle, respondTo, target, requested]
        rfl
      | some asked =>
        exact .inr ⟨endpoint, parts, asked.1, asked.2, rfl, requested,
          handle_requested target requested store⟩

/-- A request keeps the store fit for requests. -/
theorem serving_handle (serving : store.Serving) (whole : request.body.IsWhole) :
    (handle settings request store).2.Serving := by
  rcases handle_cases settings request store with
    same | ⟨endpoint, parts, asked, status, -, requested, answered⟩
  · rw [same]
    exact serving
  · have fitting := fitting_serviceRequest whole requested
    have settled := Service.settled_answer isWhole_entity serving fitting.whole
    rw [answered]
    generalize Service.models.answer asked store = answer at settled
    cases settled with
    | absent => exact serving
    | unwritable asks drawn => exact serving.withDraws drawn
    | rendered asks whole drawn => exact serving.withDraws drawn
    | met whole worded kept => exact kept

/-- An answer that is no success leaves the sessions with their models and locks as they are. -/
theorem items_of_not_success (serving : store.Serving) (whole : request.body.IsWhole)
    (failed : ¬ (handle settings request store).1.IsSuccess) :
    (handle settings request store).2.items = store.items ∧
      (handle settings request store).2.locks = store.locks := by
  rcases handle_cases settings request store with
    same | ⟨endpoint, parts, asked, status, -, requested, answered⟩
  · rw [same]
    exact ⟨rfl, rfl⟩
  · have fitting := fitting_serviceRequest whole requested
    have settled := Service.settled_answer isWhole_entity serving fitting.whole
    rw [answered] at failed ⊢
    generalize Service.models.answer asked store = answer at settled failed
    cases settled with
    | absent | unwritable | rendered => exact ⟨rfl, rfl⟩
    | met whole worded kept =>
      -- Only here a session is changed, and the answer to this can be written.
      rw [respond_told whole worded] at failed
      exact absurd fitting.success failed

/-- A request that asks changes nothing at all. -/
theorem handle_get (asks : request.method = Text.ofString "GET") :
    (handle settings request store).2 = store := by
  rcases handle_cases settings request store with
    same | ⟨endpoint, parts, asked, status, target, requested, answered⟩
  · exact same
  · rw [answered]
    have method : endpoint.method = "GET" :=
      Text.ofString_inj.mp ((Route.candidates_of_target target).1.trans asks)
    cases endpoint with
    | render | createSession | rename | addField | updateField | removeField | reset
    | deleteSession => exact absurd method (by decide)
    | home | health | types => cases requested
    | schema | getSession =>
      cases parts with
      | nil => cases requested
      | cons session rest =>
        cases requested
        rfl

/-- A request for the block of a model that no session holds draws identifiers, and changes nothing
else. -/
theorem handle_render_eq (target : Route.target settings.apiPrefix request.method request.path =
      .endpoint .render parts) :
    ∃ draws, (handle settings request store).2 = { store with draws := draws } := by
  rcases handle_cases settings request store with
    same | ⟨endpoint, parts, asked, status, here, requested, answered⟩
  · exact ⟨store.draws, same⟩
  · obtain ⟨rfl, rfl⟩ := Route.Target.endpoint.inj (target.symm.trans here)
    obtain ⟨model, -, made⟩ := of_read requested
    cases made
    rw [answered, Service.answer_render]
    cases (Service.newModel (.valid model.name) (some model.fields)).run.run store.draws with
    | mk outcome after => cases outcome <;> exact ⟨after, rfl⟩

/-- The codes of the two problems that a model without a block has. -/
def blockCodes : List Text := ["MISSING_MODEL_NAME", "NO_VALID_FIELDS"]

/-- A model without a block has one of these problems. -/
theorem ofProblem_block (error : BlockError) :
    (Envelope.ofProblem error.problem).status = 422 ∧ ∃ code ∈ blockCodes,
      (Envelope.ofProblem error.problem).body.member? "error_code" = some (.string code) := by
  cases error with
  | missingModelName => exact ⟨rfl, "MISSING_MODEL_NAME", by decide, rfl⟩
  | noNamedField => exact ⟨rfl, "NO_VALID_FIELDS", by decide, rfl⟩

/-- The list of types is always answered. -/
theorem handle_types
    (target : Route.target settings.apiPrefix request.method request.path =
      .endpoint .types parts) (store : Store Model) :
    handle settings request store = (staticResponse settings .types, store) := by
  have requested : serviceRequest .types parts request.body = .ok none := by cases parts <;> rfl
  have writable : (staticResponse settings .types).isWritable = true := by
    rw [staticResponse, isWritable_success]
    decide +kernel
  simp only [handle, respondTo, target, requested]
  have written : (staticResponse settings .types).orInternalError =
      staticResponse settings .types := by
    rw [Response.orInternalError, if_pos writable]
  exact congrArg (·, store) written

/-- A request with an accepted body to an endpoint of the interface, and to a session that is there,
is met; only the block of a model can be refused. -/
theorem handle_accepted (serving : store.Serving) (whole : request.body.IsWhole)
    (target : Route.target settings.apiPrefix request.method request.path =
      .endpoint endpoint parts) (under : endpoint.isUnderRoot = true)
    (accepted : endpoint.Accepts request.body)
    (live : ∀ session ∈ parts.head?, store.exists? session = true) :
    ((handle settings request store).1.IsSuccess ∧
        (handle settings request store).1.body.member? "success" = some (.bool true)) ∨
      ((endpoint = .schema ∨ endpoint = .render) ∧
        (handle settings request store).1.status = 422 ∧ ∃ code ∈ blockCodes,
          (handle settings request store).1.body.member? "error_code" = some (.string code)) := by
  by_cases types : endpoint = .types
  · subst types
    rw [handle_types target]
    exact .inl ⟨⟨Nat.le_refl 200, Nat.lt_of_sub_eq_succ rfl⟩, rfl⟩
  · obtain ⟨asked, status, requested⟩ :=
      serviceRequest_of_accepts accepted under types (Route.length_parts target)
    have fitting := fitting_serviceRequest whole requested
    have settled := Service.settled_answer isWhole_entity serving fitting.whole
    rw [handle_requested target requested]
    generalize Service.models.answer asked store = answer at settled
    cases settled with
    | absent about gone =>
      rw [live _ (fitting.session _ about)] at gone
      cases gone
    | @unwritable error draws asks drawn =>
      simp only [respond_unwritable]
      exact .inr ⟨fitting.block asks, ofProblem_block error⟩
    | rendered asks payloadWhole drawn =>
      simp only [respond_told payloadWhole (Text.isWhole_ofString _)]
      exact .inl ⟨fitting.success, rfl⟩
    | met payloadWhole worded kept =>
      simp only [respond_told payloadWhole worded]
      exact .inl ⟨fitting.success, rfl⟩

/-- The stores that requests lead to from one without sessions, whose limit is not negative. Every
string of a request and every token of a source is whole; the source can be replaced at any time. -/
inductive Reachable (settings : Settings) : Store Model → Prop where
  | start (limit : Nat) {draws : Draws} (drawn : draws.IsWhole) :
    Reachable settings ⟨limit, .empty, .empty, 0, draws⟩
  | supplied {store : Store Model} (run : Reachable settings store) {draws : Draws}
    (drawn : draws.IsWhole) : Reachable settings { store with draws := draws }
  | handled {store : Store Model} (run : Reachable settings store) {request : Request}
    (whole : request.body.IsWhole) : Reachable settings (handle settings request store).2

/-- A reachable store is fit for requests. -/
theorem Reachable.serving (reachable : Reachable settings store) : store.Serving := by
  induction reachable with
  | start limit drawn => exact Store.serving_empty limit drawn
  | supplied _ drawn ih => exact ih.withDraws drawn
  | handled _ whole ih => exact serving_handle ih whole

/-- A request is met or changes nothing, in every store that requests with whole strings lead to
under a limit that is not negative:

* an answer that is no success leaves the sessions, with their models and locks, as they are;
* a request that only asks changes nothing, and one for the block of a model that no session holds
  changes no session;
* a request with an accepted body to an endpoint of the interface, and to a session that is there
  where the endpoint is about one, is answered with a success; only for want of a block it is
  refused, with one of two codes. -/
theorem Reachable.failure_unchanged (reachable : Reachable settings store) (request : Request)
    (whole : request.body.IsWhole) :
    (¬ (handle settings request store).1.IsSuccess →
      (handle settings request store).2.items = store.items ∧
        (handle settings request store).2.locks = store.locks) ∧
    (request.method = Text.ofString "GET" → (handle settings request store).2 = store) ∧
    (∀ parts, Route.target settings.apiPrefix request.method request.path =
        .endpoint .render parts →
      ∃ draws, (handle settings request store).2 = { store with draws := draws }) ∧
    ∀ endpoint parts, Route.target settings.apiPrefix request.method request.path =
        .endpoint endpoint parts →
      endpoint.isUnderRoot = true → endpoint.Accepts request.body →
      (∀ session ∈ parts.head?, store.exists? session = true) →
        ((handle settings request store).1.IsSuccess ∧
          (handle settings request store).1.body.member? "success" = some (.bool true)) ∨
        ((endpoint = .schema ∨ endpoint = .render) ∧
          (handle settings request store).1.status = 422 ∧ ∃ code ∈ blockCodes,
            (handle settings request store).1.body.member? "error_code" = some (.string code)) :=
  ⟨items_of_not_success reachable.serving whole, handle_get, fun _ => handle_render_eq,
    fun _ _ target under accepted live =>
      handle_accepted reachable.serving whole target under accepted live⟩

/-- A store with one session, created by a request. -/
def opened : Store Model :=
  (handle {} ⟨"POST", "/api/v1/models", .json (.object [("name", .string "Post")])⟩
    ⟨1, .empty, .empty, 0, ⟨["x", "y", "z", "a"], 0⟩⟩).2

/-- A request with a word that is no truth value. -/
def unclear : Request :=
  ⟨"PATCH", "/api/v1/models/a/fields/x", .json (.object [("isArray", .string "perhaps")])⟩

/-- A request with a number that is not finite where nothing is read. -/
def renamed : Request :=
  ⟨"PUT", "/api/v1/models/a/name",
    .json (.object [("name", .string "Page"), ("note", .number .nonFinite)])⟩

/-- The one request is refused and changes no session, and the other one is met. -/
theorem failure_unchanged_opened :
    (¬ (handle {} unclear opened).1.IsSuccess ∧ (handle {} unclear opened).2.items = opened.items) ∧
      (handle {} renamed opened).1.IsSuccess ∧
        (handle {} renamed opened).1.body.member? "success" = some (.bool true) := by
  have json : ∀ value : Json, value.isWhole = true → (Body.json value).IsWhole := by
    intro value whole other given
    cases given
    exact whole
  have reachable : Reachable {} opened :=
    (Reachable.start 1 (by decide)).handled (json _ (by decide))
  have refused : ¬ (handle {} unclear opened).1.IsSuccess := by decide +kernel
  have target : Route.target ({} : Settings).apiPrefix renamed.method renamed.path =
      .endpoint .rename ["a"] := by decide +kernel
  have live : opened.exists? "a" = true := by decide +kernel
  have unchanged := reachable.failure_unchanged unclear (json _ (by decide))
  have met := (reachable.failure_unchanged renamed (json _ (by decide))).2.2.2 .rename _ target rfl
    ⟨_, rfl⟩ (fun _ same => Option.some.inj same ▸ live)
  refine ⟨⟨refused, (unchanged.1 refused).1⟩, met.resolve_right ?_⟩
  rintro ⟨block, -⟩
  exact absurd block (by decide)

end Application

end SchemaDesk
