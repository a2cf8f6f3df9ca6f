import SchemaDesk.Block

/-!
# Problems

A problem is what a request ends with when it is understood and cannot be met: its kind gives a
status and a code, its detail is for people, and its target names the part of the request that is
at fault, if there is one.
-/

namespace SchemaDesk

/-- The kind of a problem. -/
inductive Problem.Kind where
  /-- A problem of no special kind. -/
  | general
  /-- Something asked for is not there. -/
  | notFound
  /-- The service failed. -/
  | service
  /-- A model cannot be written. -/
  | unwritable
  /-- A model cannot be written because it has no name. -/
  | missingModelName
  /-- A model cannot be written because it has no named field. -/
  | noNamedField
deriving DecidableEq, Repr

/-- The status of a kind of problem. -/
def Problem.Kind.status : Problem.Kind → Nat
  | general | service => 500
  | notFound => 404
  | unwritable | missingModelName | noNamedField => 422

/-- The code of a kind of problem. -/
def Problem.Kind.code : Problem.Kind → String
  | general => "ERROR"
  | notFound => "NOT_FOUND"
  | service => "SERVICE_ERROR"
  | unwritable => "VALIDATION_ERROR"
  | missingModelName => "MISSING_MODEL_NAME"
  | noNamedField => "NO_VALID_FIELDS"

/-- A problem. -/
structure Problem where
  /-- The kind. -/
  kind : Problem.Kind
  /-- The detail, for people. -/
  detail : Text
  /-- The part of the request that is at fault. -/
  target : Option Text := none
deriving DecidableEq, Repr

namespace Problem

/-- A model without a name. -/
def missingModelName (detail : Text) : Problem := ⟨.missingModelName, detail, some "name"⟩

/-- A model without a named field. -/
def noNamedField (detail : Text) : Problem := ⟨.noNamedField, detail, some "fields"⟩

end Problem

/-- The message of the reason why a model has no block. -/
def BlockError.message : BlockError → String
  | missingModelName => "Model name is required"
  | noNamedField => "Model must have at least 1 named field"

/-- The problem of a model that has no block. -/
def BlockError.problem (error : BlockError) : Problem :=
  match error with
  | missingModelName => .missingModelName error.message
  | noNamedField => .noNamedField error.message

end SchemaDesk
