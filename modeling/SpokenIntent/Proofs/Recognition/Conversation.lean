import Mathlib.Data.List.Infix
import SpokenIntent.Recognition.Simulated

/-!
What a simulated engine has to say. A conversation is read off the commands alone: sessions that are
over, each with its utterances and the way it ended, and at most one that still runs. Told in events it
is a beginning, the hypotheses of each utterance, and an ending under the same identifier.

Main statement: the events that commands give rise to are those of their conversation, whoever is
connected; each goes to the receiver that is connected when its command is carried out.
-/

namespace SpokenIntent

namespace SimulatorCommand

variable {ρ : Type}

def isStart : SimulatorCommand ρ → Bool
  | .start => true
  | _ => false

/-- Who is connected after a command, where `listening` was before. -/
def listening (listening : Option ρ) : SimulatorCommand ρ → Option ρ
  | .connect receiver => some receiver
  | .disconnect => none
  | _ => listening

/-- What is known after a command, where `v` was before. -/
def teaches (v : Vocabulary) : SimulatorCommand ρ → Vocabulary
  | .addIntent phrase intentId => v.addIntent phrase intentId
  | .addPhrase phrase => v.addPhrase phrase
  | .clearPhrases => v.clearPhrases
  | _ => v

end SimulatorCommand

namespace Simulator

variable {ρ : Type}

/-! ### Conversations -/

/-- How a session ends. -/
inductive Ending where
  | stopped
  | failed (code details : String)
  | ranOut

/-- The event that closes the session of some identifier. -/
def Ending.event (id : String) : Ending → EngineEvent
  | .stopped => .stopped id
  | .failed code details => .canceled ⟨id, .error, some code, details⟩
  | .ranOut => .canceled ⟨id, .endOfStream, none, endOfStreamDetails⟩

/-- The hypotheses of an utterance: one for each of its beginnings, from the first word up to all of
them, and then the final one. -/
def hypotheses (ws : List String) (final : Recognition) : List EngineEvent :=
  (ws.inits.tail.map fun heard => .recognizing (.textOnly (Text.unwords heard))) ++ [.recognized final]

/-- A session with what is said in it, each utterance with the vocabulary of its moment. -/
structure Tale where
  id : String
  said : List (Vocabulary × String)

def Tale.events (t : Tale) : List EngineEvent :=
  .started t.id :: t.said.flatMap fun (v, utterance) =>
    hypotheses (Text.words utterance) (v.recognize (Text.unwords (Text.words utterance)))

def Tale.hear (t : Tale) (v : Vocabulary) (utterance : String) : Tale :=
  { t with said := t.said ++ [(v, utterance)] }

structure Conversation where
  vocabulary : Vocabulary
  ended : List (Tale × Ending)
  running : Option Tale

namespace Conversation

/-- Nothing has been said yet. -/
def silence (v : Vocabulary) : Conversation := ⟨v, [], none⟩

def events (c : Conversation) : List EngineEvent :=
  (c.ended.flatMap fun (tale, ending) => tale.events ++ [ending.event tale.id]) ++
    c.running.toList.flatMap Tale.events

/-- The sessions that have begun. -/
def begun (c : Conversation) : Nat := c.ended.length + c.running.toList.length

def close (c : Conversation) (ending : Ending) : Conversation :=
  match c.running with
  | none => c
  | some tale => { c with ended := c.ended ++ [(tale, ending)], running := none }

/-- The conversation after one more command. The sessions are called by `ids`, in order. A session
begins only when none runs; what is said when none runs is lost. -/
def next (ids : Nat → String) (c : Conversation) : SimulatorCommand ρ → Conversation
  | .start =>
    match c.running with
    | some _ => c
    | none => { c with running := some ⟨ids c.begun, []⟩ }
  | .stop => c.close .stopped
  | .fail code details => c.close (.failed code details)
  | .endOfStream => c.close .ranOut
  | .speak utterance => { c with running := c.running.map (Tale.hear · c.vocabulary utterance) }
  | .addIntent phrase intentId => { c with vocabulary := c.vocabulary.addIntent phrase intentId }
  | .addPhrase phrase => { c with vocabulary := c.vocabulary.addPhrase phrase }
  | .clearPhrases => { c with vocabulary := c.vocabulary.clearPhrases }
  | .connect _ => c
  | .disconnect => c

def of (ids : Nat → String) (v : Vocabulary) (cs : List (SimulatorCommand ρ)) : Conversation :=
  cs.foldl (next ids) (silence v)

end Conversation

/-! ### What commands give rise to -/

theorem utteranceEvents_eq (v : Vocabulary) (utterance : String) :
    utteranceEvents v utterance =
      hypotheses (Text.words utterance) (v.recognize (Text.unwords (Text.words utterance))) := by
  have same : beginnings (Text.words utterance) = (Text.words utterance).inits.tail.map Text.unwords := by
    -- the n-th of both lists is what the first n + 1 words come to
    apply List.ext_getElem
    · simp [beginnings]
    · intro n _ _
      simp [beginnings]
  simp only [utteranceEvents, hypotheses, same, List.map_map]
  rfl

/-- The events that commands give rise to, command by command, whether or not anyone is connected. -/
def reactions (e : Simulator ρ) : List (SimulatorCommand ρ) → List (List EngineEvent)
  | [] => []
  | c :: rest => (e.react c).2 :: reactions (e.react c).1 rest

/-- The engine has come to where the conversation is; `first` identifiers were used before it. -/
structure Follows (e : Simulator ρ) (ids : Nat → String) (first : Nat) (c : Conversation) : Prop where
  accepts : e.accepts = true
  ids : e.ids = ids
  issued : e.issued = first + c.begun
  session : e.session = c.running.map Tale.id
  vocabulary : e.vocabulary = c.vocabulary

/-- The end of a session closes it in the conversation too, and there is nothing to close without one. -/
theorem finish_follows {e : Simulator ρ} {ids : Nat → String} {first : Nat} {c : Conversation}
    (follows : Follows e ids first c) (ending : Ending) (event : String → EngineEvent)
    (closes : ∀ id, event id = ending.event id) :
    Follows (e.finish event).1 ids first (c.close ending) ∧
    (c.close ending).events = c.events ++ (e.finish event).2 := by
  obtain ⟨accepts, sameIds, issued, session, vocabulary⟩ := follows
  cases running : c.running with
  | none =>
      simp only [running, Option.map_none] at session
      have idle : c.close ending = c := by simp [Conversation.close, running]
      simp only [finish, session, idle]
      exact ⟨⟨accepts, sameIds, issued, by simp [session, running], vocabulary⟩, (List.append_nil _).symm⟩
  | some tale =>
      simp only [running, Option.map_some] at session
      simp only [Conversation.begun, running] at issued
      simp only [finish, session, Conversation.close, running]
      refine ⟨⟨accepts, sameIds, by simpa [Conversation.begun] using issued, rfl, vocabulary⟩, ?_⟩
      simp [Conversation.events, running, closes]

/-- One command takes the engine and the conversation on alike. -/
theorem react_follows {e : Simulator ρ} {ids : Nat → String} {first : Nat} {c : Conversation}
    (follows : Follows e ids first c) (command : SimulatorCommand ρ) :
    Follows (e.react command).1 ids first (c.next (fun k => ids (first + k)) command) ∧
    (c.next (fun k => ids (first + k)) command).events = c.events ++ (e.react command).2 := by
  have noted (r : Request) : Follows (e.note r) ids first c :=
    ⟨follows.accepts, follows.ids, follows.issued, follows.session, follows.vocabulary⟩
  cases command with
  | start =>
      have session := follows.session
      cases running : c.running with
      | some tale =>
          simp only [running, Option.map_some] at session
          simp only [react, begin, note, session, Conversation.next, running]
          exact ⟨⟨follows.accepts, follows.ids, follows.issued, by simp [running], follows.vocabulary⟩,
            (List.append_nil _).symm⟩
      | none =>
          simp only [running, Option.map_none] at session
          have accepts := follows.accepts
          have issued := follows.issued
          simp only [react, begin, note, session, accepts, Conversation.next, running, ↓reduceIte]
          refine ⟨⟨rfl, follows.ids, ?_, ?_, follows.vocabulary⟩, ?_⟩
          · simp only [Conversation.begun, running, Option.toList_none, Option.toList_some,
              List.length_nil, List.length_singleton] at issued ⊢
            omega
          · simp [follows.ids, issued]
          · simp [Conversation.events, running, Tale.events, follows.ids, issued]
  | stop => exact finish_follows (noted .stop) .stopped .stopped fun _ => rfl
  | fail code details => exact finish_follows follows (.failed code details) _ fun _ => rfl
  | endOfStream => exact finish_follows follows .ranOut _ fun _ => rfl
  | speak utterance =>
      have session := follows.session
      cases running : c.running with
      | none =>
          simp only [running, Option.map_none] at session
          simp only [react, session, Conversation.next, running, Option.map_none]
          exact ⟨⟨follows.accepts, follows.ids, by simpa [Conversation.begun, running] using follows.issued,
            session, follows.vocabulary⟩, by simp [Conversation.events, running]⟩
      | some tale =>
          simp only [running, Option.map_some] at session
          simp only [react, session, Conversation.next, running, Option.map_some]
          refine ⟨⟨follows.accepts, follows.ids, ?_, session, follows.vocabulary⟩, ?_⟩
          · simpa [Conversation.begun, running] using follows.issued
          · simp [Conversation.events, running, Tale.events, Tale.hear, utteranceEvents_eq,
              follows.vocabulary]
  -- what is left neither fires anything nor touches the session
  | addIntent _ _ | addPhrase _ | clearPhrases =>
      refine ⟨⟨follows.accepts, follows.ids, follows.issued, follows.session, ?_⟩, (List.append_nil _).symm⟩
      simp [react, Conversation.next, follows.vocabulary]
  | connect _ | disconnect =>
      exact ⟨⟨follows.accepts, follows.ids, follows.issued, follows.session, follows.vocabulary⟩,
        (List.append_nil _).symm⟩

theorem reactions_follow {e : Simulator ρ} {ids : Nat → String} {first : Nat} {c : Conversation}
    (follows : Follows e ids first c) (cs : List (SimulatorCommand ρ)) :
    let told := cs.foldl (Conversation.next fun k => ids (first + k)) c
    Follows (cs.foldl (fun e command => (e.react command).1) e) ids first told ∧
    told.events = c.events ++ (e.reactions cs).flatten := by
  induction cs generalizing e c with
  | nil => exact ⟨follows, (List.append_nil _).symm⟩
  | cons command rest ih =>
      obtain ⟨after, events⟩ := react_follows follows command
      obtain ⟨last, more⟩ := ih after
      refine ⟨last, ?_⟩
      simp only [List.foldl_cons, reactions, List.flatten_cons]
      rw [more, events, List.append_assoc]

/-! ### Credentials that are turned down -/

/-- What comes of a start with such credentials. -/
def rejection (id : String) : EngineEvent :=
  .canceled ⟨id, .error, some "AuthenticationFailure", authFailureDetails⟩

theorem react_rejects {e : Simulator ρ} (refuses : e.accepts = false) (idle : e.session = none)
    (command : SimulatorCommand ρ) :
    ((e.react command).1.accepts = false ∧ (e.react command).1.session = none ∧
      (e.react command).1.ids = e.ids) ∧
    (e.react command).1.issued = e.issued + command.isStart.toNat ∧
    (e.react command).2 = if command.isStart then [rejection (e.ids e.issued)] else [] := by
  cases command with
  | start =>
      simp [react, begin, note, idle, refuses, SimulatorCommand.isStart, rejection, authFailureCode]
  | _ => simp [react, finish, note, idle, refuses, SimulatorCommand.isStart]

/-- Every start uses an identifier up and is turned down; nothing else fires. -/
theorem reactions_reject {e : Simulator ρ} (refuses : e.accepts = false) (idle : e.session = none)
    (cs : List (SimulatorCommand ρ)) :
    (cs.foldl (fun e command => (e.react command).1) e).session = none ∧
    (e.reactions cs).flatten =
      (List.range (cs.countP SimulatorCommand.isStart)).map fun k => rejection (e.ids (e.issued + k)) := by
  induction cs generalizing e with
  | nil => exact ⟨idle, rfl⟩
  | cons command rest ih =>
      obtain ⟨⟨stillRefuses, stillIdle, ids⟩, issued, fired⟩ := react_rejects refuses idle command
      obtain ⟨last, more⟩ := ih stillRefuses stillIdle
      refine ⟨last, ?_⟩
      rw [reactions, List.flatten_cons, more, fired, ids, issued, List.countP_cons]
      cases command.isStart with
      | false => simp
      | true => simp [List.range_succ_eq_map, Function.comp_def, Nat.add_assoc, Nat.add_comm 1]

/-! ### Who is told -/

/-- The receivers that are connected as commands are carried out, the first of them from before. -/
def listeners (listening : Option ρ) : List (SimulatorCommand ρ) → List (Option ρ)
  | [] => []
  | command :: rest => listening :: listeners (command.listening listening) rest

/-- Events as a receiver is told of them, and as nobody is. -/
def address (listening : Option ρ) (events : List EngineEvent) : List (ρ × EngineEvent) :=
  listening.toList.flatMap fun receiver => events.map fun event => (receiver, event)

theorem begin_keeps (e : Simulator ρ) :
    e.begin.1.receiver = e.receiver ∧ e.begin.1.vocabulary = e.vocabulary := by
  simp only [begin]
  split
  · exact ⟨rfl, rfl⟩
  · split <;> exact ⟨rfl, rfl⟩

theorem finish_keeps (e : Simulator ρ) (event : String → EngineEvent) :
    (e.finish event).1.receiver = e.receiver ∧ (e.finish event).1.vocabulary = e.vocabulary := by
  simp only [finish]
  split <;> exact ⟨rfl, rfl⟩

theorem react_receiver (e : Simulator ρ) (command : SimulatorCommand ρ) :
    (e.react command).1.receiver = command.listening e.receiver := by
  cases command with
  | start => exact (begin_keeps (e.note .start)).1
  | stop => exact (finish_keeps (e.note .stop) _).1
  | fail code details => exact (finish_keeps e _).1
  | endOfStream => exact (finish_keeps e _).1
  | speak utterance =>
      simp only [react, SimulatorCommand.listening]
      split <;> rfl
  | _ => rfl

theorem react_vocabulary (e : Simulator ρ) (command : SimulatorCommand ρ) :
    (e.react command).1.vocabulary = command.teaches e.vocabulary := by
  cases command with
  | start => exact (begin_keeps (e.note .start)).2
  | stop => exact (finish_keeps (e.note .stop) _).2
  | fail code details => exact (finish_keeps e _).2
  | endOfStream => exact (finish_keeps e _).2
  | speak utterance =>
      simp only [react, SimulatorCommand.teaches]
      split <;> rfl
  | _ => rfl

theorem handle_eq (e : Simulator ρ) (command : SimulatorCommand ρ) :
    e.handle command = ((e.react command).1, address e.receiver (e.react command).2) := by
  simp only [handle, address]
  cases e.receiver <;> simp

/-- A run is what its commands give rise to, each addressed to whoever is connected then. -/
theorem run_eq (e : Simulator ρ) (cs : List (SimulatorCommand ρ)) :
    e.run cs = (cs.foldl (fun e command => (e.react command).1) e,
      ((listeners e.receiver cs).zip (e.reactions cs)).flatMap fun (listening, events) =>
        address listening events) := by
  induction cs generalizing e with
  | nil => rfl
  | cons command rest ih =>
      simp only [run, handle_eq, ih, react_receiver, listeners, reactions, List.zip_cons_cons,
        List.flatMap_cons, List.foldl_cons]

/-- One receiver that is connected all along is told everything. -/
theorem run_attended {e : Simulator ρ} {receiver : ρ} (connected : e.receiver = some receiver)
    (cs : List (SimulatorCommand ρ)) (kept : ∀ command ∈ cs, command.listening (some receiver) = some receiver) :
    (e.run cs).2 = (e.reactions cs).flatten.map fun event => (receiver, event) := by
  induction cs generalizing e with
  | nil => rfl
  | cons command rest ih =>
      have still : (e.react command).1.receiver = some receiver := by
        rw [react_receiver, connected]
        exact kept command List.mem_cons_self
      have tail := ih still fun later member => kept later (List.mem_cons_of_mem _ member)
      simp only [run, handle_eq, reactions, List.flatten_cons, List.map_append, tail, connected, address,
        Option.toList_some, List.flatMap_singleton]

/-- A start in a session does nothing, and without one nothing but a start fires or changes that. -/
theorem react_silent (e : Simulator ρ) (command : SimulatorCommand ρ)
    (unheeded : e.session.isSome = command.isStart) :
    (e.react command).2 = [] ∧ (e.react command).1.session = e.session := by
  cases session : e.session with
  | none =>
      simp only [session, Option.isSome_none] at unheeded
      cases command with
      | start => cases unheeded
      | _ => simp [react, finish, note, session]
  | some id =>
      simp only [session, Option.isSome_some] at unheeded
      cases command with
      | start => simp [react, begin, note, session]
      | _ => cases unheeded

/-- An engine whose receiver is connected, told as a whole. -/
theorem obey_eq (e : Simulator Unit) (receiver : e.receiver = some ()) (command : SimulatorCommand Unit) :
    obey command e = ⟨(e.react command).1, (e.react command).2, none⟩ := by
  simp [obey, handle, receiver, Function.comp_def]

/-! ### What events say of the session -/

theorem finish_session (e : Simulator ρ) (event : String → EngineEvent)
    (ends : ∀ id, (event id).sessionRuns? = some false) :
    ((e.finish event).2.filterMap EngineEvent.sessionRuns?).getLastD e.session.isSome =
      (e.finish event).1.session.isSome := by
  cases session : e.session with
  | none => simp [finish, session]
  | some id => simp [finish, session, ends]

theorem begin_session (e : Simulator ρ) :
    (e.begin.2.filterMap EngineEvent.sessionRuns?).getLastD e.session.isSome = e.begin.1.session.isSome := by
  cases session : e.session with
  | some id => simp [begin, session]
  | none =>
      cases accepts : e.accepts with
      | true => simp [begin, session, accepts, EngineEvent.sessionRuns?]
      | false => simp [begin, session, accepts, EngineEvent.sessionRuns?]

/-- There is a session after a command exactly if the last event that speaks of one says so, or if none does and
there was one before. -/
theorem react_session (e : Simulator ρ) (command : SimulatorCommand ρ) :
    ((e.react command).2.filterMap EngineEvent.sessionRuns?).getLastD e.session.isSome =
      (e.react command).1.session.isSome := by
  cases command with
  | start => exact begin_session (e.note .start)
  | stop => exact finish_session (e.note .stop) .stopped fun _ => rfl
  | fail code details => exact finish_session e _ fun _ => rfl
  | endOfStream => exact finish_session e _ fun _ => rfl
  | speak utterance =>
      cases session : e.session with
      | none => simp [react, session]
      | some id =>
          -- hypotheses do not speak of the session
          have plain : (utteranceEvents e.vocabulary utterance).filterMap EngineEvent.sessionRuns? = [] := by
            simp [utteranceEvents, EngineEvent.sessionRuns?]
          simp [react, session, plain]
  | _ => rfl

/-! ### The whole of it -/

/-- Whatever commands an engine without a session is given, the receivers that come and go among them:
each event goes to whoever is connected when its command is carried out, and to nobody else;
a start in a session, and a stop, an utterance, a failure or the end of the stream without one, fires nothing
and leaves it at that;
with credentials that are accepted the events given rise to are those of a conversation: sessions that are
over, each begun and ended under one identifier with the hypotheses of each utterance in between, and at most
one that still runs, which is the one that the engine has;
with credentials that are not, they are one rejection for each start, and there never is a session;
and one receiver that is connected all along is told all of it. -/
theorem conversation_told (e : Simulator ρ) (idle : e.session = none) (cs : List (SimulatorCommand ρ)) :
    let after := (e.run cs).1
    let told := (e.run cs).2
    let ids := fun k => e.ids (e.issued + k)
    let conversation := Conversation.of ids e.vocabulary cs
    let rejections := (List.range (cs.countP SimulatorCommand.isStart)).map fun k => rejection (ids k)
    let attended := fun receiver => e.receiver = some receiver ∧
      ∀ command ∈ cs, command.listening (some receiver) = some receiver
    told = ((listeners e.receiver cs).zip (e.reactions cs)).flatMap
      (fun (listening, events) => address listening events) ∧
    (∀ command, after.session.isSome = command.isStart →
      (after.handle command).2 = [] ∧ (after.handle command).1.session = after.session) ∧
    (e.accepts = true →
      (e.reactions cs).flatten = conversation.events ∧ after.session = conversation.running.map Tale.id ∧
      ∀ receiver, attended receiver → told = conversation.events.map fun event => (receiver, event)) ∧
    (e.accepts = false →
      (e.reactions cs).flatten = rejections ∧ after.session = none ∧
      ∀ receiver, attended receiver → told = rejections.map fun event => (receiver, event)) := by
  intro after told ids conversation rejections attended
  have ran := run_eq e cs
  have state : after = cs.foldl (fun e command => (e.react command).1) e := congrArg Prod.fst ran
  refine ⟨congrArg Prod.snd ran, ?_, ?_, ?_⟩
  · intro command unheeded
    obtain ⟨fired, session⟩ := react_silent after command unheeded
    simp [handle_eq, fired, address, session]
  · intro accepts
    have begins : Follows e e.ids e.issued (Conversation.silence e.vocabulary) :=
      ⟨accepts, rfl, rfl, idle, rfl⟩
    obtain ⟨follows, events⟩ := reactions_follow begins cs
    refine ⟨events.symm, state ▸ follows.session, ?_⟩
    intro receiver attends
    rw [← show (e.reactions cs).flatten = conversation.events from events.symm]
    exact run_attended attends.1 cs attends.2
  · intro refuses
    obtain ⟨session, events⟩ := reactions_reject refuses idle cs
    refine ⟨events, state ▸ session, ?_⟩
    intro receiver attends
    rw [← show (e.reactions cs).flatten = rejections from events]
    exact run_attended attends.1 cs attends.2

/-- Two sessions, the second of which begins while nobody is connected and is told of from its end on only. -/
theorem interrupted_conversation_told :
    let e : Simulator Nat := ((create true fun k => if k = 0 then "a" else "b").handle (.connect 7)).1
    let heard : List (SimulatorCommand Nat) :=
      [.start, .start, .speak "go  up", .fail "1006" "lost", .speak "lost", .addPhrase "on line", .start,
        .speak ""]
    let missed : List (SimulatorCommand Nat) := [.disconnect, .start, .connect 8, .endOfStream]
    e.session = none ∧
    (e.run heard).2 = [(7, .started "a"), (7, .recognizing (.textOnly "go")),
      (7, .recognizing (.textOnly "go up")), (7, .recognized (.textOnly "go up")),
      (7, .canceled ⟨"a", .error, some "1006", "lost"⟩), (7, .started "b"), (7, .recognized (.textOnly ""))] ∧
    (e.run heard).1.session = some "b" ∧
    (e.run missed).2 = [(8, .canceled ⟨"a", .endOfStream, none, "audio stream ended"⟩)] := by
  intro e heard missed
  obtain ⟨-, -, accepted, -⟩ := conversation_told e rfl heard
  obtain ⟨-, session, attended⟩ := accepted rfl
  obtain ⟨addressed, -⟩ := conversation_told e rfl missed
  refine ⟨rfl, ?_, session.trans (by decide +kernel), addressed.trans (by decide +kernel)⟩
  rw [attended 7 ⟨rfl, by simp [heard, SimulatorCommand.listening]⟩]
  decide +kernel

end Simulator

end SpokenIntent
