import SpokenIntent.Host.Work
import SpokenIntent.Json.Account
import SpokenIntent.Session.Payload

/-!
How a payload gets to a function of the host: as a JSON value, taken down from the account that the payload
gives of itself. Should that fail the function is not called, and the host's log says so.
-/

namespace SpokenIntent

/-- The entity under its own name, unless one of the fixed fields has that name. -/
def IntentMatch.account (m : IntentMatch) : Account :=
  .map (m.entityValue?.toList.map (fun value => (.text m.entity, .text value)) ++
    [(.text "id", .text m.id), (.text "text", .text m.text)])

namespace Payload

/-- What a payload tells of itself. An error code that is missing is not told. -/
def account : Payload → Account
  | .session p => .record [("sessionId", .text p.sessionId)]
  | .canceled p =>
    .record ([("errorDetails", .text p.errorDetails), ("reason", .text p.reason.name)] ++
      p.errorCode.toList.map fun code => ("errorCode", .text code))
  | .recognizing p => .record [("text", .text p.text)]
  | .recognized p =>
    .record [("text", .text p.text), ("intentMatches", .list (p.intentMatches.map IntentMatch.account))]

variable {σ τ : Type}

/-- Hands a payload over to a function that listens on `channel`; `call` calls it with a value. -/
def forward (channel : Channel) (call : Json → Work σ τ Unit) (p : Payload) : Work σ τ Unit :=
  match p.account.value with
  | .ok value => call value
  | .error reason => Work.report (.conversionFailed channel.name (.conversion reason))

end Payload

end SpokenIntent
