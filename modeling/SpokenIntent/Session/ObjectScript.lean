import SpokenIntent.Host.Loop
import SpokenIntent.Recognition.Simulated
import SpokenIntent.Session.Object

/-!
Host code that works with bridge objects, and a stage on which it runs: objects over simulated
engines, one at a time, on one host. A new object takes the place of the old one, whose items stay in
the queue. What a function of the host does when it is called is a list of acts, and a panic where it
has one.
-/

namespace SpokenIntent.ObjectScript

inductive Act where
  | invoke (method : String) (args : List HostValue)
  | isRunning
  | created
  | letGo
  | speak (utterance : String)
  | fail (code details : String)
  | endOfStream
  | clearPhrases
  | requests
  | phrases
  | intentCount

structure Script where
  acts : List Act
  panic : Option Panic

inductive Reply where
  | nothing
  | flag (b : Bool)
  | count (n : Nat)
  | value (v : HostValue)
  | failed (e : Failure)
  | requests (rs : List Request)
  | phrases (ps : List String)
  | constructed
  | noObject
  | noEngine

/-- What functions of the host do, as the stage gets to know of it. -/
inductive Record where
  | called (f : HostFunction) (payload : Payload)
  | acted (act : Act) (reply : Reply)

abbrev ObjectSession := Session (Tapped (Simulator Unit)) HostFunction

/-- An item together with the number of the object whose bridge posted it. -/
structure Task where
  serial : Nat
  task : BridgeTask HostFunction

/-- `created` counts the objects, which numbers them too; `latest` is the newest, whether or not it
has been let go. `idsUsed` are the session identifiers that earlier engines have used. -/
structure Stage where
  accepts : Bool
  ids : Nat → String
  idsUsed : Nat
  created : Nat
  latest : Option ObjectSession
  records : List Record

abbrev StageWork (α : Type) := Work Stage Task α

namespace Stage

def create (accepts : Bool) (ids : Nat → String) : Stage := ⟨accepts, ids, 0, 0, none, []⟩

def note (r : Record) (s : Stage) : Stage := { s with records := s.records ++ [r] }

/-- The host is told of a session; only the newest object still cares. -/
def tell (serial : Nat) (running : Bool) (s : Stage) : Stage :=
  if serial = s.created then
    { s with latest := s.latest.map (Session.told running) }
  else s

end Stage

def onLatest {α : Type} (session : ObjectSession)
    (act : Session.Act (Tapped (Simulator Unit)) HostFunction α) : StageWork α := do
  let serial := (← Work.read).created
  Work.within (fun _ => session) (fun session s => { s with latest := some session })
    (fun task => ⟨serial, task⟩) act

def withEngine (act : ObjectSession → StageWork Reply) : StageWork Reply := do
  match (← Work.read).latest with
  | none => pure .noEngine
  | some session => act session

def withObject (act : ObjectSession → StageWork Reply) : StageWork Reply := do
  match (← Work.read).latest with
  | none => pure .noObject
  | some session => if session.bridge.detached then pure .noObject else act session

def command (c : SimulatorCommand Unit) : StageWork Reply :=
  withEngine fun session => do
    onLatest session (Session.react (Tapped.lift (Simulator.obey c)))
    pure .nothing

def Act.run : Act → StageWork Reply
  | .invoke method args => withObject fun session => do
    match ← onLatest session (Session.invoke method args) with
    | .ok value => pure (.value value)
    | .error e => pure (.failed (.argument e))
  | .isRunning => withObject fun session => pure (.flag session.bridge.running)
  | .created => do pure (.count (← Work.read).created)
  | .letGo => do
    match (← Work.read).latest with
    | none => pure (.flag false)
    | some session =>
      if session.bridge.detached then pure (.flag false)
      else
        onLatest session Session.teardown
        pure (.flag true)
  | .speak utterance => command (.speak utterance)
  | .fail code details => command (.fail code details)
  | .endOfStream => command .endOfStream
  | .clearPhrases => command .clearPhrases
  | .requests => withEngine fun session => pure (.requests session.engine.engine.requests)
  | .phrases => withEngine fun session => pure (.phrases session.engine.engine.vocabulary.phrases)
  | .intentCount => withEngine fun session =>
    pure (.count session.engine.engine.vocabulary.intents.length)

/-- Makes a new object, whose engine may be heard from the moment at which it is connected. The old one
is let go after that, and what its engine still fires is heard by nobody. -/
def construct (args : List HostValue) : StageWork Reply := do
  let s ← Work.read
  let used := s.idsUsed + s.latest.elim 0 fun session => session.engine.engine.issued
  let factory := Tapped.factory (Simulator.factory s.accepts fun n => s.ids (used + n))
  match ← Work.within (fun _ => ()) (fun _ s => s) (fun task => ⟨s.created + 1, task⟩)
      (Session.construct factory args) with
  | .error e => pure (.failed e)
  | .ok session =>
    Work.update fun s =>
      { s with idsUsed := used, created := s.created + 1, latest := some session }
    match s.latest with
    | none => pure .constructed
    | some old =>
      if old.bridge.detached then pure .constructed
      else
        Work.within (fun _ => old) (fun _ s => s) (fun task => ⟨s.created, task⟩) Session.teardown
        pure .constructed

def runActs : List Act → StageWork Unit
  | [] => pure ()
  | act :: rest => do
    let reply ← act.run
    Work.update (Stage.note (.acted act reply))
    runActs rest

def invoke (behave : HostFunction → Script) (f : HostFunction) (payload : Payload) :
    StageWork Unit := do
  Work.update (Stage.note (.called f payload))
  runActs (behave f).acts
  Work.panicIf (behave f).panic

def runTask (behave : HostFunction → Script) (scope : Scope) (task : Task) : StageWork Unit :=
  Session.runTask (fun running => Work.update (Stage.tell task.serial running)) (invoke behave) scope
    task.task

abbrev Play := Host Stage Task

/-- The events that the newest engine has fired, as far as they have been noted. -/
def firedEvents (h : Play) : List EngineEvent :=
  h.world.latest.elim [] fun session => session.engine.fired

def forget (h : Play) : Play :=
  { h with
    world.records := []
    world.latest := h.world.latest.map fun session => { session with engine.fired := [] }
    log := [] }

inductive Step where
  | construct (args : List HostValue)
  | act (a : Act)
  | runPending
  | pending

def drainLimit : Nat := 1000000

def Step.run (behave : HostFunction → Script) (h : Play) : Step → Reply × Play
  | .construct args =>
    match h.perform (ObjectScript.construct args) with
    | (.ok reply, h) => (reply, h)
    | (.error _, h) => (.nothing, h)
  | .act a =>
    match h.perform a.run with
    | (.ok reply, h) => (reply, h)
    | (.error _, h) => (.nothing, h)
  | .runPending =>
    let (n, h) := h.runPending (runTask behave) drainLimit
    (.count n, h)
  | .pending => (.count h.pending, h)

end SpokenIntent.ObjectScript
