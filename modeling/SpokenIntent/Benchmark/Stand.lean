import SpokenIntent.Benchmark.Tally
import SpokenIntent.Session.Opening

/-!
The stand on which the relay is measured: a bridge over an engine that does nothing, with a single
callback, which counts the final hypotheses that it is given. Every shot is fired as one of those.
-/

namespace SpokenIntent

/-- `now` is what the clock shows, in microseconds. -/
structure Stand where
  session : Session Recorder Unit
  tally : Tally
  now : Nat

abbrev StandWork (α : Type) := Work Stand (BridgeTask Unit) α

abbrev Trial := Host Stand (BridgeTask Unit)

namespace Stand

def onSession {α : Type} (act : Session.Act Recorder Unit α) : StandWork α :=
  Work.within Stand.session (fun session s => { s with session := session }) id act

def tell (running : Bool) (s : Stand) : Stand :=
  { s with session := s.session.told running }

/-- The callback: it counts final hypotheses. -/
def invoke (payload : Payload) : StandWork Unit :=
  match payload with
  | .recognized p => Work.update fun s => { s with tally := s.tally.recordText s.now p.text }
  | _ => pure ()

def runTask (scope : Scope) (task : BridgeTask Unit) : StandWork Unit :=
  Session.runTask (fun running => Work.update (tell running)) (fun _ => invoke) scope task

end Stand

namespace Trial

def credentials : Credentials := ⟨"benchmark", "local", by decide, by decide⟩

def open? : Except OpeningError Trial :=
  let opened : Except OpeningError Trial :=
    Session.openOn (Recorder.factory fun _ => none) credentials fun session => ⟨session, Tally.empty, 0⟩
  opened.map fun trial => (trial.perform (Stand.onSession (Session.on .recognized ()))).2

def fire (trial : Trial) (s : Shot) : Trial :=
  (trial.perform (Stand.onSession (Session.fire (.recognized (Recognition.textOnly s.text))))).2

/-- Runs items until as many shots have arrived as are expected. -/
def await (trial : Trial) (expected : Nat) : Host.Watch × Trial :=
  trial.runUntil Stand.runTask (fun s => expected ≤ s.tally.delivered) expected

def atTime (trial : Trial) (now : Nat) : Trial :=
  { trial with world.now := now }

end Trial

end SpokenIntent
