import SpokenIntent.Credentials
import SpokenIntent.Host.Log
import SpokenIntent.Recognition.Event

/-!
Recognition engines as seen by those who use them: they take requests, and fire events at whoever is
connected. A request is answered at once with the engine as it then is, the events it fired, and the
panic that ended it, if one did.
-/

namespace SpokenIntent

inductive Request where
  | create (key region : String)
  | grammar
  | connect
  | disconnect
  | start
  | stop
  | addIntent (phrase intentId : String)
  | addPhrase (phrase : String)
  deriving DecidableEq

inductive EngineError where
  | creation (reason : String)
  deriving DecidableEq

def EngineError.message : EngineError → String
  | .creation reason => "recognition engine could not be created: " ++ reason

structure Reaction (ε : Type) where
  engine : ε
  fired : List EngineEvent
  panic : Option Panic

class Engine (ε : Type) where
  request : Request → ε → Reaction ε

abbrev EngineFactory (ε : Type) := Credentials → Except EngineError ε

/-- An engine that does nothing but keep what is asked of it. It may refuse requests: it notes them
and panics. -/
structure Recorder where
  requests : List Request
  connected : Bool
  refuses : Request → Option Panic

namespace Recorder

def request (r : Request) (e : Recorder) : Reaction Recorder :=
  let connected :=
    match r with
    | .connect => true
    | .disconnect => false
    | _ => e.connected
  ⟨{ e with requests := e.requests ++ [r], connected := connected }, [], e.refuses r⟩

instance : Engine Recorder := ⟨request⟩

/-- A factory of recorders, which notes the creation too. -/
def factory (refuses : Request → Option Panic) : EngineFactory Recorder := fun c =>
  .ok ⟨[.create c.key c.region], false, refuses⟩

end Recorder

structure Tapped (ε : Type) where
  engine : ε
  fired : List EngineEvent

namespace Tapped

variable {ε : Type}

def lift (f : ε → Reaction ε) (e : Tapped ε) : Reaction (Tapped ε) :=
  let reaction := f e.engine
  ⟨⟨reaction.engine, e.fired ++ reaction.fired⟩, reaction.fired, reaction.panic⟩

instance [Engine ε] : Engine (Tapped ε) := ⟨fun r => lift (Engine.request r)⟩

def factory (make : EngineFactory ε) : EngineFactory (Tapped ε) := fun c =>
  (make c).map fun engine => ⟨engine, []⟩

end Tapped

end SpokenIntent
