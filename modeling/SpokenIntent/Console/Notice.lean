import SpokenIntent.Session.Payload
import SpokenIntent.Text.Quoted
import SpokenIntent.Vocabulary.Commands

/-!
What the console tells its user: the events of a session, each in a line of its own, and whether a
session is active.
-/

namespace SpokenIntent

inductive Notice where
  | started (sessionId : String)
  | stopped (sessionId : String)
  | canceled (code : Option String) (details : String)
  | recognizing (text : String)
  | resolved (dispatch : Dispatch)
  | status (running : Bool)
  deriving DecidableEq

namespace Notice

def ofPayload? (table : CommandTable) (channel : Channel) (payload : Payload) : Option Notice :=
  match channel, payload with
  | .started, .session p => some (.started p.sessionId)
  | .stopped, .session p => some (.stopped p.sessionId)
  | .canceled, .canceled p => some (.canceled p.errorCode p.errorDetails)
  | .recognizing, .recognizing p => some (.recognizing p.text)
  | .recognized, .recognized p => some (.resolved (table.resolve p))
  | _, _ => none

/-- The entries of a dictionary in braces, keys quoted. -/
def showDict {α : Type} (value : α → String) (d : Dict α) : String :=
  let entries := d.map fun (k, v) => Text.quote k ++ ": " ++ value v
  "\x7b" ++ ", ".intercalate entries ++ "\x7d"

def showDispatch : Dispatch → String
  | .command _ command => "[command] " ++ command
  | .intent intentId entities numbers =>
    "[intent] " ++ intentId ++ " " ++ showDict Text.quote entities ++ " " ++
      showDict Text.decimal numbers
  | .unmatched utterance => "[text] " ++ utterance

def text : Notice → String
  | .started id => "[started] " ++ id
  | .stopped id => "[stopped] " ++ id
  | .canceled (some code) details => "[cancelled] " ++ code ++ ": " ++ details
  | .canceled none details => "[cancelled] " ++ details
  | .recognizing text => "[recognizing] " ++ text
  | .resolved dispatch => showDispatch dispatch
  | .status running => "session " ++ if running then "active" else "idle"

end Notice

end SpokenIntent
