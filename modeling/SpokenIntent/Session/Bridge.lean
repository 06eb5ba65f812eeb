import SpokenIntent.Host.Work
import SpokenIntent.Recognition.Engine
import SpokenIntent.Relay.Slot
import SpokenIntent.Session.Payload

/-!
The session bridge: between an engine, which fires events, and a host, which runs callbacks. An event
posts the item that delivers it to the callback set at that moment, if one is set. An event that
begins or ends a session first posts an item that says so, whether or not anyone listens; so whether
a session runs is what the host has been told last, and each such callback finds it as its own event
says.

Letting the bridge go silences the events that come after. What was posted before still runs.
-/

namespace SpokenIntent

/-- The callbacks of a bridge, a slot for every kind of event. -/
abbrev Slots (κ : Type) := Channel → Slot κ

namespace Slots

variable {κ : Type}

def empty : Slots κ := fun channel => Slot.empty channel.name

def set (slots : Slots κ) (channel : Channel) (callback : κ) : Slots κ := fun other =>
  if other = channel then (slots other).set callback else slots other

end Slots

inductive BridgeTask (κ : Type) where
  | tell (running : Bool)
  | deliver (relay : Relay κ) (payload : Payload)

/-- `running` is what the host has been told of the session; `detached` is set when the bridge is let
go. -/
structure Bridge (κ : Type) where
  slots : Slots κ
  running : Bool
  detached : Bool

namespace Bridge

variable {κ : Type}

def create : Bridge κ := ⟨Slots.empty, false, false⟩

def tellings (event : EngineEvent) : List (Item (BridgeTask κ)) :=
  event.sessionRuns?.toList.map fun running => ⟨event.channel.name, .tell running⟩

/-- The item that delivers an event to the callback in its slot. -/
def deliveries (b : Bridge κ) (event : EngineEvent) : List (Item (BridgeTask κ)) :=
  (b.slots event.channel).current.toList.map fun relay => ⟨relay.name, .deliver relay event.payload⟩

def receive (b : Bridge κ) (event : EngineEvent) : List (Item (BridgeTask κ)) :=
  if b.detached then [] else tellings event ++ b.deliveries event

def on (b : Bridge κ) (channel : Channel) (callback : κ) : Bridge κ :=
  { b with slots := b.slots.set channel callback }

end Bridge

structure Session (ε κ : Type) where
  engine : ε
  bridge : Bridge κ

namespace Session

variable {ε κ : Type}

abbrev Act (ε κ α : Type) := Work (Session ε κ) (BridgeTask κ) α

def told (running : Bool) (s : Session ε κ) : Session ε κ :=
  { s with bridge := { s.bridge with running := running } }

/-- An event reaches the bridge. -/
def fire (event : EngineEvent) : Act ε κ Unit := do
  Work.post ((← Work.read).bridge.receive event)

def fireAll : List EngineEvent → Act ε κ Unit
  | [] => pure ()
  | event :: rest => do
    fire event
    fireAll rest

/-- Lets the engine react. The events that it fires reach the bridge, then it panics if it has to. -/
def react (f : ε → Reaction ε) : Act ε κ Unit := do
  let reaction := f (← Work.read).engine
  Work.update fun s => { s with engine := reaction.engine }
  fireAll reaction.fired
  Work.panicIf reaction.panic

def ask [Engine ε] (r : Request) : Act ε κ Unit := react (Engine.request r)

/-- What an engine does where nobody is connected to it: what it fires goes nowhere. -/
def unheard (f : ε → Reaction ε) (engine : ε) : Reaction ε := { f engine with fired := [] }

/-- A new engine is asked for its grammar, and then the bridge is connected to it. -/
def connect [Engine ε] : Act ε κ Unit := do
  react (unheard (Engine.request .grammar))
  ask .connect

/-- Sets up a bridge over a new engine. Nobody has the bridge until it is connected, so an engine that
panics by then leaves none behind. -/
def establish {σ : Type} [Engine ε] (factory : EngineFactory ε) (credentials : Credentials) :
    Work σ (BridgeTask κ) (Except EngineError (Session ε κ)) :=
  match factory credentials with
  | .error error => pure (.error error)
  | .ok engine => do pure (.ok (← Work.apart ⟨engine, Bridge.create⟩ connect))

def start [Engine ε] : Act ε κ Unit := ask .start

def stop [Engine ε] : Act ε κ Unit := ask .stop

def addIntent [Engine ε] (phrase intentId : String) : Act ε κ Unit :=
  ask (.addIntent phrase intentId)

def addPhrase [Engine ε] (phrase : String) : Act ε κ Unit := ask (.addPhrase phrase)

def on (channel : Channel) (callback : κ) : Act ε κ Unit :=
  Work.update fun s => { s with bridge := s.bridge.on channel callback }

/-- Lets the bridge go: it is detached, the engine is stopped and then disconnected. An engine that
panics at the first request does not get the second. -/
def teardown [Engine ε] : Act ε κ Unit := do
  Work.update fun s => { s with bridge := { s.bridge with detached := true } }
  match ← Work.attempt (do ask .stop; ask .disconnect) with
  | .ok () => pure ()
  | .error _ => Work.report .teardownFailed

/-- Runs an item of a bridge that is part of a larger world. `tell` records what the host is told of
the session, `invoke` runs a callback. -/
def runTask {σ τ : Type} (tell : Bool → Work σ τ Unit) (invoke : κ → Payload → Work σ τ Unit)
    (scope : Scope) : BridgeTask κ → Work σ τ Unit
  | .tell running => tell running
  | .deliver relay payload => relay.deliver invoke (fun _ => pure (.ok payload)) scope

end Session

end SpokenIntent
