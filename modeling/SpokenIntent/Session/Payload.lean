import SpokenIntent.Json.Shape
import SpokenIntent.Json.Writer
import SpokenIntent.Recognition.Event

/-!
What callbacks are given: the identifier of a session, the reason why one was given up, a partial
hypothesis, or a final one with its entities. Payloads are written as JSON, and all but the last kind
can be read back.

A final hypothesis lists one match for each entity, in the order of the entities' names. A match is
written flat, under the entity's own name; an entity called `id` or `text` gives way to the fixed
fields of that name.
-/

namespace SpokenIntent

structure SessionPayload where
  sessionId : String
  deriving DecidableEq

structure CanceledPayload where
  errorDetails : String
  reason : CancelReason
  errorCode : Option String
  deriving DecidableEq

structure RecognizingPayload where
  text : String
  deriving DecidableEq

structure IntentMatch where
  entity : String
  value : String
  id : String
  text : String
  deriving DecidableEq

structure RecognizedPayload where
  text : String
  intentMatches : List IntentMatch
  deriving DecidableEq

inductive Payload where
  | session (p : SessionPayload)
  | canceled (p : CanceledPayload)
  | recognizing (p : RecognizingPayload)
  | recognized (p : RecognizedPayload)
  deriving DecidableEq

namespace CancelReason

def name : CancelReason → String
  | .error => "error"
  | .endOfStream => "endOfStream"

def ofName? (name : String) : Option CancelReason :=
  if name = "error" then some .error
  else if name = "endOfStream" then some .endOfStream
  else none

end CancelReason

namespace SessionPayload

def toJson (p : SessionPayload) : Json := .object [("sessionId", .string p.sessionId)]

def shape : Json.Shape (Option String) where
  fields := [⟨"sessionId", Option.isSome, fun _ cs =>
    (Json.readString cs).map fun (s, cs) => (some s, cs)⟩]
  mayStop := false

def read : Json.Reader SessionPayload := fun cs =>
  match shape.read none cs with
  | .error fault => .error fault
  | .ok (some id, cs) => .ok (⟨id⟩, cs)
  | .ok (none, _) => .error .unfit

end SessionPayload

namespace RecognizingPayload

def toJson (p : RecognizingPayload) : Json := .object [("text", .string p.text)]

def shape : Json.Shape (Option String) where
  fields := [⟨"text", Option.isSome, fun _ cs =>
    (Json.readString cs).map fun (s, cs) => (some s, cs)⟩]
  mayStop := false

def read : Json.Reader RecognizingPayload := fun cs =>
  match shape.read none cs with
  | .error fault => .error fault
  | .ok (some text, cs) => .ok (⟨text⟩, cs)
  | .ok (none, _) => .error .unfit

end RecognizingPayload

namespace CanceledPayload

def toJson (p : CanceledPayload) : Json :=
  .object ([("errorDetails", .string p.errorDetails), ("reason", .string p.reason.name)] ++
    p.errorCode.toList.map fun code => ("errorCode", .string code))

/-- The fields as far as a text has given them. The code may be left out. -/
structure Draft where
  errorDetails : Option String
  reason : Option CancelReason
  errorCode : Option (Option String)

def shape : Json.Shape Draft where
  fields := [
    ⟨"errorDetails", fun d => d.errorDetails.isSome, fun d cs =>
      (Json.readString cs).map fun (s, cs) => ({ d with errorDetails := some s }, cs)⟩,
    ⟨"reason", fun d => d.reason.isSome, fun d cs =>
      (Json.readVariant CancelReason.ofName? cs).map fun (r, cs) => ({ d with reason := some r }, cs)⟩,
    ⟨"errorCode", fun d => d.errorCode.isSome, fun d cs =>
      (Json.readOptional Json.readString cs).map fun (c, cs) => ({ d with errorCode := some c }, cs)⟩]
  mayStop := false

def read : Json.Reader CanceledPayload := fun cs =>
  match shape.read ⟨none, none, none⟩ cs with
  | .error fault => .error fault
  | .ok (⟨some details, some reason, code⟩, cs) => .ok (⟨details, reason, code.join⟩, cs)
  | .ok _ => .error .unfit

end CanceledPayload

namespace IntentMatch

/-- The names that a match uses for its own fields. -/
def isReserved (name : String) : Bool := name == "id" || name == "text"

/-- The value of the entity, unless its name is taken. -/
def entityValue? (m : IntentMatch) : Option String :=
  if isReserved m.entity then none else some m.value

def toJson (m : IntentMatch) : Json :=
  .object (m.entityValue?.toList.map (fun value => (m.entity, .string value)) ++
    [("id", .string m.id), ("text", .string m.text)])

end IntentMatch

namespace RecognizedPayload

def toJson (p : RecognizedPayload) : Json :=
  .object [("text", .string p.text), ("intentMatches", .array (p.intentMatches.map IntentMatch.toJson))]

end RecognizedPayload

namespace Payload

def toJson : Payload → Json
  | .session p => p.toJson
  | .canceled p => p.toJson
  | .recognizing p => p.toJson
  | .recognized p => p.toJson

def text (p : Payload) : String := p.toJson.compact

end Payload

/-- A final hypothesis as it was when it was fired, its entities in order. -/
structure Snapshot where
  text : String
  intentId : String
  entities : Dict String

namespace Snapshot

def capture (r : Recognition) : Snapshot :=
  ⟨r.text, r.intentId, Dict.ofList r.entities⟩

def toPayload (s : Snapshot) : RecognizedPayload :=
  ⟨s.text, s.entities.map fun (entity, value) => ⟨entity, value, s.intentId, s.text⟩⟩

end Snapshot

def EngineEvent.payload : EngineEvent → Payload
  | .started id => .session ⟨id⟩
  | .stopped id => .session ⟨id⟩
  | .canceled c => .canceled ⟨c.errorDetails, c.reason, c.errorCode⟩
  | .recognizing r => .recognizing ⟨r.text⟩
  | .recognized r => .recognized (Snapshot.capture r).toPayload

end SpokenIntent
