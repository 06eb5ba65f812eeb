import SpokenIntent.Console.Desk
import SpokenIntent.Proofs.Recognition.Conversation
import SpokenIntent.Proofs.Recognition.Lessons
import SpokenIntent.Proofs.Session.Requests

/-!
A console as it is when it has been opened: its engine has been taught the lessons of its settings, and
its bridge has a callback for every kind of event. From then on each event that the engine fires waits as
an item of its own, after one that tells the host of the session where the event speaks of it.
-/

namespace SpokenIntent

/-! ### Lessons -/

def Lesson.command : Lesson → SimulatorCommand Unit
  | .intent phrase intentId => .addIntent phrase intentId
  | .hint phrase => .addPhrase phrase

/-- Gives a lesson by way of a session. -/
def Lesson.give : Lesson → Session.Act (Simulator Unit) Channel Unit
  | .intent phrase intentId => Session.addIntent phrase intentId
  | .hint phrase => Session.addPhrase phrase

def giveAll : List Lesson → Session.Act (Simulator Unit) Channel Unit
  | [] => pure ()
  | lesson :: rest => do
    lesson.give
    giveAll rest

/-- The lessons of settings: the intents, then the phrase hints. -/
def Settings.lessons (s : Settings) : List Lesson :=
  s.intents.map (fun intent => .intent intent.phrase intent.intentId) ++ s.phrases.map .hint

theorem Settings.registerIntents_eq (intents : List IntentSetting) :
    registerIntents intents = giveAll (intents.map fun intent => .intent intent.phrase intent.intentId) := by
  induction intents with
  | nil => rfl
  | cons intent rest ih =>
      rw [registerIntents, ih]
      rfl

theorem Settings.registerPhrases_eq (phrases : List String) :
    registerPhrases phrases = giveAll (phrases.map .hint) := by
  induction phrases with
  | nil => rfl
  | cons phrase rest ih =>
      rw [registerPhrases, ih]
      rfl

namespace Simulator

def study (e : Simulator Unit) (lesson : Lesson) : Simulator Unit := (e.react lesson.command).1

variable (e : Simulator Unit) (lesson : Lesson)

theorem study_receiver : (e.study lesson).receiver = e.receiver := by
  cases lesson <;> rfl

theorem study_vocabulary : (e.study lesson).vocabulary = e.vocabulary.learn lesson := by
  cases lesson <;> rfl

/-- A lesson fires nothing. -/
theorem react_lesson : e.react lesson.command = (e.study lesson, []) := by
  cases lesson <;> rfl

theorem study_all (lessons : List Lesson) :
    (lessons.foldl study e).receiver = e.receiver ∧
    (lessons.foldl study e).vocabulary = lessons.foldl Vocabulary.learn e.vocabulary := by
  induction lessons generalizing e with
  | nil => exact ⟨rfl, rfl⟩
  | cons lesson rest ih =>
      rcases ih (e.study lesson) with ⟨receiver, vocabulary⟩
      simp only [List.foldl_cons, receiver, vocabulary, study_receiver, study_vocabulary, and_self]

end Simulator

abbrev DeskEffects := Effects (Session (Simulator Unit) Channel) (BridgeTask Channel)

theorem give_eq (lesson : Lesson) : lesson.give = Session.react (Simulator.obey lesson.command) := by
  cases lesson <;> rfl

theorem give_run (lesson : Lesson) (e : DeskEffects) (receiver : e.world.engine.receiver = some ()) :
    lesson.give e = .ok () { e with world := ⟨e.world.engine.study lesson, e.world.bridge⟩ } := by
  rw [give_eq, Session.react_run, Simulator.obey_eq _ receiver, Simulator.react_lesson]
  simp

theorem giveAll_run (lessons : List Lesson) (e : DeskEffects) (receiver : e.world.engine.receiver = some ()) :
    giveAll lessons e =
      .ok () { e with world := ⟨lessons.foldl Simulator.study e.world.engine, e.world.bridge⟩ } := by
  induction lessons generalizing e with
  | nil => rfl
  | cons lesson rest ih =>
      simp only [giveAll, Work.bind_apply, give_run lesson e receiver]
      exact ih _ ((Simulator.study_receiver _ lesson).trans receiver)

theorem giveAll_append (lessons more : List Lesson) (e : DeskEffects) :
    giveAll (lessons ++ more) e = (do giveAll lessons; giveAll more) e := by
  induction lessons generalizing e with
  | nil => rfl
  | cons lesson rest ih =>
      simp only [List.cons_append, giveAll, Work.bind_apply]
      cases lesson.give e with
      | ok _ left => simp only [ih, Work.bind_apply]
      | error p left => rfl

theorem Settings.register_run (s : Settings) (e : DeskEffects) (receiver : e.world.engine.receiver = some ()) :
    s.register e = .ok () { e with world := ⟨s.lessons.foldl Simulator.study e.world.engine, e.world.bridge⟩ } := by
  rw [register, registerIntents_eq, registerPhrases_eq, ← giveAll_append]
  exact giveAll_run s.lessons e receiver

namespace Console

/-! ### Callbacks -/

/-- The item that gives notice of an event. -/
def delivery (event : EngineEvent) : Item (BridgeTask Channel) :=
  ⟨event.channel.name, .deliver ⟨event.channel.name, event.channel⟩ event.payload⟩

/-- A bridge with the callbacks of a console. -/
structure Listens (b : Bridge Channel) : Prop where
  attached : b.detached = false
  slots : ∀ channel, (b.slots channel).current = some ⟨channel.name, channel⟩

theorem Listens.receive {b : Bridge Channel} (listens : Listens b) (event : EngineEvent) :
    b.receive event = Bridge.tellings event ++ [delivery event] := by
  simp [Bridge.receive, Bridge.deliveries, listens.attached, listens.slots, delivery]

/-- The bridge of a console that has been opened. -/
def listeningBridge : Bridge Channel := Desk.channels.foldl (fun b channel => b.on channel channel) Bridge.create

theorem listeningBridge_listens : Listens listeningBridge where
  attached := rfl
  slots channel := by cases channel <;> rfl

theorem listen_run (engine : Simulator Unit) :
    Desk.listen Desk.channels ⟨⟨engine, Bridge.create⟩, [], []⟩ =
      .ok () ⟨⟨engine, listeningBridge⟩, [], []⟩ := rfl

/-! ### The console -/

/-- The engine of a console before it has been taught anything. -/
def freshEngine (ids : Nat → String) : Simulator Unit :=
  (Simulator.obey (.connect ()) (Simulator.create true ids)).engine

/-- A console that has been opened. -/
def opening (s : Settings) (ids : Nat → String) : Console :=
  Host.start ⟨⟨s.lessons.foldl Simulator.study (freshEngine ids), listeningBridge⟩, ⟨s.commands⟩, []⟩

theorem open_eq (s : Settings) (credentials : Credentials) (ids : Nat → String) :
    open? s credentials ids = .ok (opening s ids) := by
  let fresh : Session (Simulator Unit) Channel := ⟨freshEngine ids, Bridge.create⟩
  have opened : Session.openOn (Simulator.factory true ids) credentials (fun session => ⟨session, ⟨s.commands⟩, []⟩) =
      .ok (Host.start (⟨fresh, ⟨s.commands⟩, []⟩ : Desk)) := rfl
  have left : (Desk.setUp s).leave fresh =
      ⟨⟨s.lessons.foldl Simulator.study (freshEngine ids), listeningBridge⟩, [], []⟩ := by
    have registered := s.register_run ⟨fresh, [], []⟩ rfl
    simp only [Work.leave, Desk.setUp, Work.bind_apply, registered, fresh, listen_run]
  simp only [open?, opened, Except.map, Host.perform_eq, Desk.onSession, Work.within_leave, Host.start, left]
  rfl

end Console

end SpokenIntent
