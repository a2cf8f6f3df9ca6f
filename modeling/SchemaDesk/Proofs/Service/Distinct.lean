import SchemaDesk.Proofs.Model.Distinct
import SchemaDesk.Proofs.Service.Records
/-!
# Distinct identifiers in every session

A service that is asked for edits only keeps models whose fields have distinct identifiers: a
request makes its model from nothing or from the model of its session, and either way the
identifiers are distinct afterwards, whatever is drawn (`distinct_edit`). The invariant is carried
by what a request can do to the store, so it holds in every run, however the requests overlap.
-/

namespace SchemaDesk

/-- Every model in the store has distinct identifiers. -/
def Store.AllDistinct (store : Store Model) : Prop :=
  ∀ session model, store.get? session = some model → model.Distinct

/-- A request edits a model with distinct identifiers to one that has them too. -/
theorem ServiceRequest.gives_distinct (request : ServiceRequest) {model : Model}
    (distinct : model.Distinct) : (request.edit model).Gives Model.Distinct := by
  cases request with
  | rename session name => exact Drawing.gives_pure distinct
  | add session attributes => exact Model.gives_addField distinct _
  | update session field changes =>
    exact Drawing.gives_mk fun updated => Model.distinct_updateField distinct
  | remove session field => exact Drawing.gives_pure (Model.distinct_removeField distinct field)
  | reset session => exact Model.gives_reset
  | _ => exact Drawing.gives_pure distinct

namespace Service

variable {service : Service} {floor : Floor ServiceRequest Model Outcome} {store : Store Model}
  {request : ServiceRequest} {records : List Record}

/-- A request leaves distinct identifiers in the store and answers with them, if a model that it
gives has them. -/
theorem Effect.distinct {outcome : Outcome} {after : Store Model}
    (effect : Effect service request store (outcome, after)) (all : store.AllDistinct)
    (given : ∀ model, request = .createFor model → model.Distinct) :
    after.AllDistinct ∧ ∀ model, carried outcome = some model → model.Distinct := by
  cases effect with
  | absent about gone => exact ⟨all, nofun⟩
  | @edited edited message model made draws edits found ran =>
    have distinct : made.Distinct :=
      request.gives_distinct (all _ _ found) store.draws made (congrArg Prod.fst ran)
    refine ⟨fun session stored found => ?_, fun told carries => Option.some.inj carries ▸ distinct⟩
    have put : (store.items.put edited made).find? session = some stored := found
    rw [Table.find?_put] at put
    split at put
    · exact Option.some.inj put ▸ distinct
    · exact all session stored put
  | @created created message model draws edits origin new =>
    have distinct : model.Distinct := by
      rcases origin with asked | ⟨name, fields, -, made⟩
      · exact given model asked
      · exact Model.gives_create _ _ store.draws model (congrArg Prod.fst made)
    refine ⟨fun session stored found => ?_, fun told carries => Option.some.inj carries ▸ distinct⟩
    have live := Store.exists?_of_get? found
    rw [Store.get?_create live] at found
    split at found
    · exact Option.some.inj found ▸ distinct
    · exact all session stored found
  | asked asks found => exact ⟨all, fun told carries => Option.some.inj carries ▸ all _ _ found⟩
  | other edits asks bare alone =>
    refine ⟨fun session stored found => ?_, fun told carries => nomatch bare.symm.trans carries⟩
    have live := Store.exists?_of_get? found
    exact all session stored ((alone session live).symm.trans found)

/-- The models in the store and in the answers have distinct identifiers in every run in which the
models that come from outside have them. -/
theorem Conducted.allDistinct (run : service.Conducted records floor)
    (given : ∀ record ∈ records, ∀ model, record.request = .createFor model → model.Distinct) :
    floor.desk.store.AllDistinct ∧
      ∀ record ∈ records, ∀ model, carried record.outcome = some model → model.Distinct := by
  induction run with
  | start limit draws =>
    exact ⟨(fun session model found => nomatch found),
      fun record mem => absurd mem List.not_mem_nil⟩
  | @move records floor run move allowed own ih =>
    obtain ⟨all, answers⟩ := ih fun record mem => given record (List.mem_append_left _ mem)
    have sound := run.reachable.sound
    rcases sound.step_cases allowed own with
      ⟨request, own, recorded, after⟩ | ⟨recorded, kept⟩
    · rw [recorded] at given ⊢
      have effect : Effect service request floor.desk.store
          (service.answer request floor.desk.store) := effect_answer sound.desk.store own
      obtain ⟨stored, told⟩ := effect.distinct all fun model asked =>
        given _ (List.mem_append_right _ (List.mem_singleton_self _)) model asked
      refine ⟨after ▸ stored, fun record mem => ?_⟩
      rcases List.mem_append.mp mem with old | new
      · exact answers record old
      · obtain rfl := List.mem_singleton.mp new
        exact told
    · rw [recorded, List.append_nil]
      refine ⟨fun session model found => ?_, answers⟩
      rcases kept with same | ⟨dropped, same⟩
      · exact all session model (same ▸ found)
      · have live := Store.exists?_of_get? found
        rw [same] at found live
        rw [(Store.leavesAlone_drop floor.desk.store session dropped live).1] at found
        exact all session model found

/-- Whatever identifiers are drawn:

* every edit gives a model with distinct identifiers if the model that it is made to has them; only
  loading a model brings the identifiers that it comes with;
* in every run in which nobody but the service puts models into the store, and the models that it is
  given have distinct identifiers, every stored model and every model in an answer has them. -/
theorem ids_stay_distinct :
    (∀ edit : Edit, (∀ given, edit ≠ .load given) →
      ∀ model : Model, (edit.takesModel = true → model.Distinct) →
        (edit.apply model).Gives Model.Distinct) ∧
    ∀ (service : Service) (records : List Record) (floor : Floor ServiceRequest Model Outcome),
      service.Conducted records floor →
      (∀ record ∈ records, ∀ model, record.request = .createFor model → model.Distinct) →
        (∀ session model, floor.desk.store.get? session = some model → model.Distinct) ∧
          ∀ record ∈ records, ∀ model, carried record.outcome = some model → model.Distinct :=
  ⟨fun edit own model => edit.gives_distinct own model, fun _ _ _ run => run.allDistinct⟩

/-- A service whose source draws every identifier several times. -/
def repeating : Floor ServiceRequest Model Outcome :=
  ⟨⟨⟨2, .empty, .empty, 0, ⟨["a", "a", "a", "b", "b", "c", "a", "b", "a", "b", "d"], 0⟩⟩, [], 0⟩,
    [], []⟩

/-- A model is created with the default fields, and gets one more. -/
def extended : Floor ServiceRequest Model Outcome :=
  [.ask (.create (.valid "Post") none), .ask (.add "a" { name := some "title" })].foldl models.step
    repeating

/-- The four fields have four identifiers, though most of those drawn are taken. -/
theorem ids_stay_distinct_extended :
    ∃ model, extended.desk.store.get? "a" = some model ∧ model.ids.length = 4 ∧
      model.ids.Nodup := by
  obtain ⟨records, run⟩ : ∃ records, models.Conducted records extended := by
    have start : models.Conducted [] repeating := .start 2 _
    have created := start.ask (.create (.valid "Post") none) trivial
    exact ⟨_, created.ask (.add "a" { name := some "title" }) trivial⟩
  have made : extended.answers.all (fun entry => match entry.1 with
      | .createFor _ => false
      | _ => true) = true := by decide +kernel
  have given : ∀ record ∈ records, ∀ model, record.request = .createFor model →
      model.Distinct := by
    intro record mem model asked
    have answered : (record.request, record.outcome) ∈ extended.answers := by
      rw [run.answers_eq]
      exact List.mem_map_of_mem mem
    have entry := List.all_eq_true.mp made _ answered
    rw [asked] at entry
    cases entry
  have count : (extended.desk.store.get? "a").map (·.ids.length) = some 4 := by decide +kernel
  obtain ⟨model, found, length⟩ := Option.map_eq_some_iff.mp count
  have stored := (ids_stay_distinct.2 models records extended run given).1
  exact ⟨model, found, length, stored "a" model found⟩

end Service

end SchemaDesk
