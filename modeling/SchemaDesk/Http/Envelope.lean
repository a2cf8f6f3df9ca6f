import SchemaDesk.Problem
import SchemaDesk.Shape.Domain

/-!
# Envelopes

Every answer of the application lies in an envelope: what is asked for with a message, or a code, a
message and details of what went wrong. The parts of an envelope that come from outside are checked
like any other value, and of data from outside the internal members are left out. An answer that
cannot be written gives way to the one for which nothing is prepared.
-/

namespace SchemaDesk

/-- An answer: a status and a body. -/
structure Response where
  /-- The status. -/
  status : Nat
  /-- The body. -/
  body : Json

/-- Whether the body can be written: numbers that are not finite and halves of characters cannot. -/
def Response.isWritable (response : Response) : Bool := response.body.isPlain

/-- A detail of what went wrong. -/
structure ErrorDetail where
  /-- The part of the request that is at fault. -/
  field : Text := []
  /-- The code. -/
  code : Text := "ERROR"
  /-- The message. -/
  message : Text := "Unknown Error"
  /-- The target of the problem. -/
  target : Option Text := none
deriving DecidableEq, Repr

/-- Details of what went wrong, from outside. -/
def Shape.errorDetail : Shape ErrorDetail where
  title := "ErrorDetail"
  part := (Part.both (.withDefault (.plain "field") [] .text)
    (Part.both (.withDefault (.plain "code") (Text.ofString "ERROR") .text)
      (Part.both (.withDefault (.plain "message") (Text.ofString "Unknown Error") .text)
        (.withDefault (.plain "target") none Content.text.nullable)))).iso
    (fun parts => ⟨parts.1, parts.2.1, parts.2.2.1, parts.2.2.2⟩)
    (fun detail => (detail.field, detail.code, detail.message, detail.target))

namespace Envelope

/-- The status of an answer when none is asked for. -/
def defaultStatus : Nat := 200

/-- The status of a failure when none is asked for. -/
def defaultFailureStatus : Nat := 400

/-- An answer with what is asked for. -/
def success (status : Nat) (data : Json) (message : Option Text) : Response where
  status := status
  body := .object [("success", .bool true), ("message", Json.orNull .string message),
    ("data", data)]

/-- An answer that tells what went wrong. -/
def failure (status : Nat) (code : Text) (message : Option Text)
    (details : List ErrorDetail) : Response where
  status := status
  body := .object [("success", .bool false), ("message", Json.orNull .string message),
    ("data", .null), ("error_code", .string code),
    ("error_details", .array (details.map (Shape.errorDetail.write .snake)))]

/-- The content of a message that is named, seen from the object it is a member of. -/
def readNamed {α : Type} (name : Text) (content : Content α) (value : Json) : Checked α :=
  (content.read .caller value).under (.key name)

/-- An answer with data from outside and a message that may have faults. -/
def checkedSuccess (status : Nat) (data message : Json) : Checked Response :=
  (readNamed "message" Content.text.nullable message).map (success status data.shared)

/-- Details from outside; the first that has faults counts. -/
def readDetails : List Json → Checked (List ErrorDetail)
  | [] => .valid []
  | value :: rest =>
    match Shape.errorDetail.read .caller value with
    | .valid detail => (readDetails rest).map (detail :: ·)
    | .invalid details => .invalid details

/-- An answer that tells what went wrong, of which every part may have faults. The details are
looked at first. -/
def checkedFailure (status : Nat) (code message : Json) (details : List Json) :
    Checked Response :=
  match readDetails details with
  | .invalid details => .invalid details
  | .valid details =>
    (Checked.both (readNamed "message" Content.text.nullable message)
      (readNamed "error_code" Content.text code)).map fun parts =>
        failure status parts.2 parts.1 details

/-- The answer to a request that ends with a problem. A problem with a target has one detail. -/
def ofProblem (problem : Problem) : Response :=
  failure problem.kind.status problem.kind.code (some problem.detail)
    (match problem.target with
    | none | some [] => []
    | some target => [⟨target, problem.kind.code, problem.detail, some target⟩])

/-- The answer when nothing else is prepared for what went wrong. -/
def internalError : Response :=
  failure 500 "INTERNAL_ERROR" (some "Internal Server Error") []

end Envelope

/-- The answer itself when it can be written, and else the one for which nothing is prepared. -/
def Response.orInternalError (response : Response) : Response :=
  if response.isWritable then response else Envelope.internalError

end SchemaDesk
