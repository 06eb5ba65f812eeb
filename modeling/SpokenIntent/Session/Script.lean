import SpokenIntent.Session.Opening

/-!
Host code that works with a bridge, and a stage on which it runs: one bridge over an engine that
records what is asked of it, on one host. What a callback does is a list of acts, and a panic where
it has one; both may depend on the payload.
-/

namespace SpokenIntent.BridgeScript

variable {κ : Type}

/-- An act on a bridge. An event is fired by way of the engine, which needs a receiver, or by way of a
receiver that was kept from the beginning. -/
inductive Act (κ : Type) where
  | start
  | stop
  | addIntent (phrase intentId : String)
  | addPhrase (phrase : String)
  | isRunning
  | on (channel : Channel) (callback : κ)
  | fire (event : EngineEvent) (kept : Bool)
  | letGo
  | requests
  | isConnected

structure Script (κ : Type) where
  acts : List (Act κ)
  panic : Option Panic

inductive Reply where
  | nothing
  | flag (b : Bool)
  | requests (rs : List Request)
  | noBridge
  deriving DecidableEq

/-- What happens on the stage: the host is told of the session, a callback is called, an act is done,
inside of a callback or not. -/
inductive Happening (κ : Type) where
  | told (running : Bool)
  | called (callback : κ) (payload : Payload)
  | acted (inside : Bool) (act : Act κ) (reply : Reply)

inductive Record (κ : Type) where
  | called (callback : κ) (payload : Payload)
  | acted (act : Act κ) (reply : Reply)

structure Stage (κ : Type) where
  session : Session Recorder κ
  history : List (Happening κ)

abbrev StageWork (κ α : Type) := Work (Stage κ) (BridgeTask κ) α

def Happening.record? : Happening κ → Option (Record κ)
  | .told _ => none
  | .called callback payload => some (.called callback payload)
  | .acted true act reply => some (.acted act reply)
  | .acted false _ _ => none

namespace Stage

def records (s : Stage κ) : List (Record κ) := s.history.filterMap Happening.record?

def setSession (session : Session Recorder κ) (s : Stage κ) : Stage κ :=
  { s with session := session }

def note (happening : Happening κ) (s : Stage κ) : Stage κ :=
  { s with history := s.history ++ [happening] }

def tell (running : Bool) (s : Stage κ) : Stage κ :=
  { s with session := s.session.told running }.note (.told running)

end Stage

def onSession {α : Type} (act : Session.Act Recorder κ α) : StageWork κ α :=
  Work.within Stage.session Stage.setSession id act

def withBridge (act : Session.Act Recorder κ Reply) : StageWork κ Reply := do
  if (← Work.read).session.bridge.detached then pure .noBridge else onSession act

def Act.run : Act κ → StageWork κ Reply
  | .start => withBridge (do Session.start; pure .nothing)
  | .stop => withBridge (do Session.stop; pure .nothing)
  | .addIntent phrase intentId => withBridge (do Session.addIntent phrase intentId; pure .nothing)
  | .addPhrase phrase => withBridge (do Session.addPhrase phrase; pure .nothing)
  | .isRunning => withBridge (do pure (.flag (← Work.read).bridge.running))
  | .on channel callback => withBridge (do Session.on channel callback; pure .nothing)
  | .fire event kept => do
    if kept || (← Work.read).session.engine.connected then
      onSession (Session.fire event)
      pure (.flag true)
    else pure (.flag false)
  | .letGo => do
    if (← Work.read).session.bridge.detached then pure (.flag false)
    else
      onSession Session.teardown
      pure (.flag true)
  | .requests => do pure (.requests (← Work.read).session.engine.requests)
  | .isConnected => do pure (.flag (← Work.read).session.engine.connected)

/-- Does an act and notes it with its reply. An act that panics has no reply, and is not noted. -/
def Act.perform (inside : Bool) (act : Act κ) : StageWork κ Reply := do
  let reply ← act.run
  Work.update (Stage.note (.acted inside act reply))
  pure reply

def runActs : List (Act κ) → StageWork κ Unit
  | [] => pure ()
  | act :: rest => do
    let _ ← act.perform true
    runActs rest

def invoke (behave : κ → Payload → Script κ) (callback : κ) (payload : Payload) :
    StageWork κ Unit := do
  Work.update (Stage.note (.called callback payload))
  let script := behave callback payload
  runActs script.acts
  Work.panicIf script.panic

def runTask (behave : κ → Payload → Script κ) (scope : Scope) (task : BridgeTask κ) :
    StageWork κ Unit :=
  Session.runTask (fun running => Work.update (Stage.tell running)) (invoke behave) scope task

abbrev Play (κ : Type) := Host (Stage κ) (BridgeTask κ)

def open? (factory : EngineFactory Recorder) (credentials : Credentials) :
    Except OpeningError (Play κ) :=
  Session.openOn factory credentials fun session => ⟨session, []⟩

def forget (h : Play κ) : Play κ :=
  { h with world.history := [], log := [] }

inductive Step (κ : Type) where
  | act (a : Act κ)
  | runPending
  | pending

inductive Answer where
  | reply (r : Reply)
  | panicked (p : Panic)
  | count (n : Nat)

def drainLimit : Nat := 1000000

def Step.run (behave : κ → Payload → Script κ) (h : Play κ) : Step κ → Answer × Play κ
  | .act a =>
    match h.perform (a.perform false) with
    | (.ok reply, h) => (.reply reply, h)
    | (.error p, h) => (.panicked p, h)
  | .runPending =>
    let (n, h) := h.runPending (runTask behave) drainLimit
    (.count n, h)
  | .pending => (.count h.pending, h)

end SpokenIntent.BridgeScript
