/-!
What the host reports when something goes wrong on it: a panic of some piece of code, an event that
could not be delivered, an engine that fails while it is being let go.
-/

namespace SpokenIntent

/-- A panic, with its text where it has one. -/
inductive Panic where
  | text (message : String)
  | other
  deriving DecidableEq

def Panic.message : Panic → String
  | .text message => message
  | .other => "non-string panic payload"

/-- Why the argument of a callback could not be produced. -/
inductive PayloadError where
  | build (reason : String)
  | panicked (reason : String)
  | conversion (reason : String)
  deriving DecidableEq

def PayloadError.message : PayloadError → String
  | .build reason => "payload builder failed: " ++ reason
  | .panicked reason => "payload builder panicked: " ++ reason
  | .conversion reason => "payload conversion failed: " ++ reason

/-- A line of the host's log. `seq` is the position of the item during which it was written; what goes wrong
inside a callback has none. -/
inductive LogEntry where
  | eventDropped (relay : String) (seq : UInt64) (error : PayloadError)
  | conversionFailed (relay : String) (error : PayloadError)
  | callbackPanicked (relay : String) (seq : UInt64) (panic : Panic)
  | itemPanicked (origin : String) (seq : UInt64) (panic : Panic)
  | teardownFailed
  deriving DecidableEq

inductive LogLevel where
  | error
  | warn
  deriving DecidableEq

namespace LogEntry

def level : LogEntry → LogLevel
  | .eventDropped .. => .error
  | .conversionFailed .. => .warn
  | .callbackPanicked .. => .warn
  | .itemPanicked .. => .error
  | .teardownFailed => .warn

def message : LogEntry → String
  | .eventDropped .. => "event dropped"
  | .conversionFailed .. => "event dropped"
  | .callbackPanicked .. => "host callback panicked"
  | .itemPanicked .. => "host work item panicked; continuing"
  | .teardownFailed => "engine stop failed during teardown; ignoring"

end LogEntry

end SpokenIntent
