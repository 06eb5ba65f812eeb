/-!
What a recognition engine fires: the beginning and the end of sessions, and hypotheses about what
is being said.
-/

namespace SpokenIntent

/-- Why an engine gives up a session: a failure of some kind, or the end of the audio. -/
inductive CancelReason where
  | error
  | endOfStream
  deriving DecidableEq

structure Cancellation where
  sessionId : String
  reason : CancelReason
  errorCode : Option String
  errorDetails : String
  deriving DecidableEq

/-- A hypothesis. The intent is empty when no registered pattern matched; the entities come in no
particular order. -/
structure Recognition where
  text : String
  intentId : String
  entities : List (String × String)
  deriving DecidableEq

def Recognition.textOnly (text : String) : Recognition := ⟨text, "", []⟩

def Recognition.hasIntent (r : Recognition) : Bool := !r.intentId.isEmpty

inductive EngineEvent where
  | started (sessionId : String)
  | stopped (sessionId : String)
  | canceled (c : Cancellation)
  | recognizing (r : Recognition)
  | recognized (r : Recognition)
  deriving DecidableEq

/-- The kinds of events, each with a callback of its own. -/
inductive Channel where
  | started
  | stopped
  | canceled
  | recognizing
  | recognized
  deriving DecidableEq

def Channel.name : Channel → String
  | .started => "started"
  | .stopped => "stopped"
  | .canceled => "canceled"
  | .recognizing => "recognizing"
  | .recognized => "recognized"

namespace EngineEvent

def channel : EngineEvent → Channel
  | .started _ => .started
  | .stopped _ => .stopped
  | .canceled _ => .canceled
  | .recognizing _ => .recognizing
  | .recognized _ => .recognized

/-- What a lifecycle event says of the session: that it runs, or that it does not. -/
def sessionRuns? : EngineEvent → Option Bool
  | .started _ => some true
  | .stopped _ => some false
  | .canceled _ => some false
  | .recognizing _ => none
  | .recognized _ => none

end EngineEvent

end SpokenIntent
