import SpokenIntent.Console.Input
import SpokenIntent.Console.Notice
import SpokenIntent.Recognition.Simulated
import SpokenIntent.Session.Opening
import SpokenIntent.Settings.Register

/-!
The console at work: a session over a simulated engine, whose callbacks give notice of every event,
on one host. What is typed and when the host drains are the turns that it takes, in any order.
-/

namespace SpokenIntent

/-- A session with a callback for every kind of event, and the notices given so far. -/
structure Desk where
  session : Session (Simulator Unit) Channel
  table : CommandTable
  notices : List Notice

abbrev DeskWork (α : Type) := Work Desk (BridgeTask Channel) α

abbrev Console := Host Desk (BridgeTask Channel)

namespace Desk

def note (notices : List Notice) (d : Desk) : Desk :=
  { d with notices := d.notices ++ notices }

def tell (running : Bool) (d : Desk) : Desk :=
  { d with session := d.session.told running }

def onSession {α : Type} (act : Session.Act (Simulator Unit) Channel α) : DeskWork α :=
  Work.within Desk.session (fun session d => { d with session := session }) id act

def invoke (channel : Channel) (payload : Payload) : DeskWork Unit :=
  Work.update fun d => d.note (Notice.ofPayload? d.table channel payload).toList

def runTask (scope : Scope) (task : BridgeTask Channel) : DeskWork Unit :=
  Session.runTask (fun running => Work.update (tell running)) invoke scope task

def listen : List Channel → Session.Act (Simulator Unit) Channel Unit
  | [] => pure ()
  | channel :: rest => do
    Session.on channel channel
    listen rest

def channels : List Channel := [.started, .stopped, .canceled, .recognizing, .recognized]

def setUp (s : Settings) : Session.Act (Simulator Unit) Channel Unit := do
  s.register
  listen channels

/-- Does what someone has typed. To quit is up to the program. -/
def handle : ConsoleInput → DeskWork Unit
  | .start => onSession Session.start
  | .stop => onSession Session.stop
  | .status => Work.update fun d => d.note [.status d.session.bridge.running]
  | .quit => pure ()
  | .speak text => onSession (Session.react (Simulator.obey (.speak text)))
  | .nothing => pure ()

end Desk

namespace Console

def drainLimit : Nat := 1000000

def open? (s : Settings) (credentials : Credentials) (ids : Nat → String) :
    Except OpeningError Console :=
  let opened : Except OpeningError Console :=
    Session.openOn (Simulator.factory true ids) credentials fun session => ⟨session, ⟨s.commands⟩, []⟩
  opened.map fun c => (c.perform (Desk.onSession (Desk.setUp s))).2

def handle (c : Console) (input : ConsoleInput) : Console :=
  (c.perform (Desk.handle input)).2

def drain (c : Console) : Console :=
  (c.runPending Desk.runTask drainLimit).2

inductive Turn where
  | input (i : ConsoleInput)
  | drain

def turn (c : Console) : Turn → Console
  | .input i => c.handle i
  | .drain => c.drain

def play (c : Console) (turns : List Turn) : Console := turns.foldl turn c

def leave (c : Console) : Console :=
  (c.perform (Desk.onSession Session.teardown)).2.close

/-- Stops the session and runs items until the host is told that none runs, then leaves. -/
def finish (c : Console) : Console :=
  let (_, c) := (c.handle .stop).runUntil Desk.runTask (fun d => !d.session.bridge.running) drainLimit
  leave c

end Console

end SpokenIntent
