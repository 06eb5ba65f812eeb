import SpokenIntent.Recognition.Engine
import SpokenIntent.Recognition.Vocabulary

/-!
An engine without a microphone: instead of audio it is given utterances. In a session it fires, for
each utterance, a partial hypothesis for every word and then the final one. An engine that was made
with credentials it does not accept cancels every start.

Events go to the receiver that is connected when the command is carried out. Without one the session
goes its way in silence.
-/

namespace SpokenIntent

/-- What an engine of this kind can be told; `ρ` are its receivers. -/
inductive SimulatorCommand (ρ : Type) where
  | start
  | stop
  | speak (utterance : String)
  | fail (code details : String)
  | endOfStream
  | addIntent (phrase intentId : String)
  | addPhrase (phrase : String)
  | clearPhrases
  | connect (receiver : ρ)
  | disconnect

/-- `ids` are the identifiers of sessions in the order in which they are used, of which `issued`
have been. -/
structure Simulator (ρ : Type) where
  accepts : Bool
  ids : Nat → String
  issued : Nat
  session : Option String
  receiver : Option ρ
  vocabulary : Vocabulary
  requests : List Request

namespace Simulator

variable {ρ : Type}

def create (accepts : Bool) (ids : Nat → String) : Simulator ρ :=
  ⟨accepts, ids, 0, none, none, Vocabulary.empty, []⟩

def authFailureCode : String := "AuthenticationFailure"

def authFailureDetails : String :=
  "WebSocket upgrade failed: Authentication error (401). Please check subscription information " ++
    "and region name."

def endOfStreamDetails : String := "audio stream ended"

def beginnings (ws : List String) : List String :=
  (List.range ws.length).map fun n => Text.unwords (ws.take (n + 1))

/-- The events of one utterance: a hypothesis for every word more that is heard, and a final one. -/
def utteranceEvents (v : Vocabulary) (utterance : String) : List EngineEvent :=
  let ws := Text.words utterance
  (beginnings ws).map (fun text => .recognizing (Recognition.textOnly text)) ++
    [.recognized (v.recognize (Text.unwords ws))]

/-- Closes the session, if there is one, with the event that its identifier gives. -/
def finish (e : Simulator ρ) (event : String → EngineEvent) : Simulator ρ × List EngineEvent :=
  match e.session with
  | none => (e, [])
  | some id => ({ e with session := none }, [event id])

/-- A start: nothing in a session. Otherwise an identifier is used up, and either a session begins
or the credentials are turned down. -/
def begin (e : Simulator ρ) : Simulator ρ × List EngineEvent :=
  match e.session with
  | some _ => (e, [])
  | none =>
    let id := e.ids e.issued
    let e := { e with issued := e.issued + 1 }
    if e.accepts then ({ e with session := some id }, [.started id])
    else (e, [.canceled ⟨id, .error, some authFailureCode, authFailureDetails⟩])

def note (e : Simulator ρ) (r : Request) : Simulator ρ :=
  { e with requests := e.requests ++ [r] }

/-- The engine after a command, and the events that it gives rise to, whether or not anyone is
connected. -/
def react (e : Simulator ρ) : SimulatorCommand ρ → Simulator ρ × List EngineEvent
  | .start => (e.note .start).begin
  | .stop => (e.note .stop).finish .stopped
  | .speak utterance =>
    match e.session with
    | none => (e, [])
    | some _ => (e, utteranceEvents e.vocabulary utterance)
  | .fail code details => e.finish fun id => .canceled ⟨id, .error, some code, details⟩
  | .endOfStream => e.finish fun id => .canceled ⟨id, .endOfStream, none, endOfStreamDetails⟩
  | .addIntent phrase intentId =>
    ({ e.note (.addIntent phrase intentId) with
        vocabulary := e.vocabulary.addIntent phrase intentId }, [])
  | .addPhrase phrase =>
    ({ e.note (.addPhrase phrase) with vocabulary := e.vocabulary.addPhrase phrase }, [])
  | .clearPhrases => ({ e with vocabulary := e.vocabulary.clearPhrases }, [])
  | .connect receiver => ({ e.note .connect with receiver := some receiver }, [])
  | .disconnect => ({ e.note .disconnect with receiver := none }, [])

/-- Carries out a command. What is fired goes to the receiver that was connected before. -/
def handle (e : Simulator ρ) (c : SimulatorCommand ρ) : Simulator ρ × List (ρ × EngineEvent) :=
  let (after, events) := e.react c
  match e.receiver with
  | none => (after, [])
  | some receiver => (after, events.map fun event => (receiver, event))

def run (e : Simulator ρ) : List (SimulatorCommand ρ) → Simulator ρ × List (ρ × EngineEvent)
  | [] => (e, [])
  | c :: rest =>
    let (e, fired) := e.handle c
    let (e, more) := e.run rest
    (e, fired ++ more)

def commandOf? : Request → Option (SimulatorCommand Unit)
  | .create _ _ => none
  | .grammar => none
  | .connect => some (.connect ())
  | .disconnect => some .disconnect
  | .start => some .start
  | .stop => some .stop
  | .addIntent phrase intentId => some (.addIntent phrase intentId)
  | .addPhrase phrase => some (.addPhrase phrase)

/-- A command as a reaction: an engine of this kind never panics. -/
def obey (c : SimulatorCommand Unit) (e : Simulator Unit) : Reaction (Simulator Unit) :=
  let (e, fired) := e.handle c
  ⟨e, fired.map Prod.snd, none⟩

def request (r : Request) (e : Simulator Unit) : Reaction (Simulator Unit) :=
  match commandOf? r with
  | none => ⟨e, [], none⟩
  | some c => obey c e

instance : Engine (Simulator Unit) := ⟨request⟩

def factory (accepts : Bool) (ids : Nat → String) : EngineFactory (Simulator Unit) := fun _ =>
  .ok (create accepts ids)

end Simulator

end SpokenIntent
