import SpokenIntent.Proofs.Console.Sessions
import SpokenIntent.Proofs.Text.Words
import SpokenIntent.Proofs.Vocabulary.Commands

/-!
From an utterance to what is to be done about it. An utterance in a session comes to one hypothesis for
each of its beginnings and one last one, and these wait as items behind all others. So a drain that runs
everything gives the notices that it would have given anyway, and then those of the utterance: the last of
them is the only one that says what is to be done.
-/

namespace SpokenIntent

/-- What a console goes through: turns, and lessons given in between. -/
inductive Deed where
  | turn (t : Console.Turn)
  | teach (lesson : Lesson)

def Deed.lesson? : Deed → Option Lesson
  | .turn _ => none
  | .teach lesson => some lesson

namespace Console

def undergo (c : Console) : Deed → Console
  | .turn t => c.turn t
  | .teach lesson => (c.perform (Desk.onSession lesson.give)).2

def after (c : Console) (deeds : List Deed) : Console := deeds.foldl undergo c

/-! ### What a console has been taught -/

/-- A console that goes by lessons and commands. -/
structure Serves (lessons : List Lesson) (commands : Dict String) (c : Console) : Prop where
  living : c.alive = true
  listens : Listens c.world.session.bridge
  connected : c.world.session.engine.receiver = some ()
  knows : c.world.session.engine.vocabulary.Knows lessons
  table : c.world.table = ⟨commands⟩

variable {lessons : List Lesson} {commands : Dict String} {c : Console}

/-- The engine takes a command, and what it fires waits behind all else. -/
theorem react_eq (serves : Serves lessons commands c) (command : SimulatorCommand Unit) :
    let reacted := c.world.session.engine.react command
    (c.perform (Desk.onSession (Session.react (Simulator.obey command)))).2 =
      { c with
        world := { c.world with session := ⟨reacted.1, c.world.session.bridge⟩ }
        queue := c.queue.append (reacted.2.flatMap c.world.session.bridge.receive) } := by
  rw [Host.perform_eq, Desk.onSession, Work.within_leave, Session.react_leave,
    Simulator.obey_eq _ serves.connected]
  simp [Host.accepts, serves.living]

theorem react_serves (serves : Serves lessons commands c) (command : SimulatorCommand Unit)
    (stays : command.listening (some ()) = some ()) {more : List Lesson}
    (learns : (command.teaches c.world.session.engine.vocabulary).Knows more) :
    Serves more commands (c.perform (Desk.onSession (Session.react (Simulator.obey command)))).2 := by
  rw [react_eq serves]
  constructor
  · exact serves.living
  · exact serves.listens
  · rw [Simulator.react_receiver, serves.connected, stays]
  · rw [Simulator.react_vocabulary]
    exact learns
  · exact serves.table

theorem handle_serves (serves : Serves lessons commands c) (input : ConsoleInput) :
    Serves lessons commands (c.handle input) := by
  cases input with
  | start => exact react_serves serves .start rfl serves.knows
  | stop => exact react_serves serves .stop rfl serves.knows
  | speak utterance => exact react_serves serves (.speak utterance) rfl serves.knows
  | status =>
      rw [handle, Desk.handle, Host.perform_update]
      exact ⟨serves.living, serves.listens, serves.connected, serves.knows, serves.table⟩
  | quit | nothing =>
      rw [handle, Desk.handle, Host.perform_pure]
      exact serves

theorem teach_serves (serves : Serves lessons commands c) (lesson : Lesson) :
    Serves (lessons ++ [lesson]) commands (c.undergo (.teach lesson)) := by
  have learns := Vocabulary.learn_knows serves.knows lesson
  rw [undergo, give_eq]
  cases lesson with
  | intent phrase intentId => exact react_serves serves (.addIntent phrase intentId) rfl learns
  | hint phrase => exact react_serves serves (.addPhrase phrase) rfl learns

theorem step_serves (serves : Serves lessons commands c) {next : Console}
    (stepped : c.step? Desk.runTask = some next) : Serves lessons commands next := by
  rcases step_eq stepped with ⟨item, rest, -, rfl⟩
  cases task : item.task with
  | tell running =>
      exact ⟨serves.living, ⟨serves.listens.attached, serves.listens.slots⟩, serves.connected, serves.knows,
        serves.table⟩
  | deliver relay payload =>
      exact ⟨serves.living, serves.listens, serves.connected, serves.knows, serves.table⟩

theorem drain_serves (serves : Serves lessons commands c) (limit : Nat) :
    Serves lessons commands (c.runPending Desk.runTask limit).2 :=
  Host.runPending_keeps (fun _ _ serves stepped => step_serves serves stepped) limit serves

theorem after_serves (serves : Serves lessons commands c) (deeds : List Deed) :
    Serves (lessons ++ deeds.filterMap Deed.lesson?) commands (c.after deeds) := by
  induction deeds generalizing lessons c with
  | nil => simpa [after] using serves
  | cons deed rest ih =>
      cases deed with
      | turn turn =>
          cases turn with
          | input i => exact ih (handle_serves serves i)
          | drain => exact ih (drain_serves serves drainLimit)
      | teach lesson =>
          have more := ih (teach_serves serves lesson)
          rwa [List.append_assoc] at more

theorem open_serves {s : Settings} {credentials : Credentials} {ids : Nat → String}
    (opened : open? s credentials ids = .ok c) : Serves s.lessons s.commands c := by
  rw [open_eq, Except.ok.injEq] at opened
  subst opened
  rcases Simulator.study_all (freshEngine ids) s.lessons with ⟨connected, vocabulary⟩
  constructor
  · rfl
  · exact listeningBridge_listens
  · exact connected
  · rw [opening, Host.start, vocabulary]
    exact Vocabulary.taught_knows s.lessons
  · rfl

/-! ### Full drains -/

/-- The notices that an item gives. -/
def noticesOf (table : CommandTable) (item : Item (BridgeTask Channel)) : List Notice :=
  match item.task with
  | .tell _ => []
  | .deliver relay payload => (Notice.ofPayload? table relay.callback payload).toList

theorem deskAfter_notices (d : Desk) (item : Item (BridgeTask Channel)) :
    (deskAfter d item.task).notices = d.notices ++ noticesOf d.table item ∧
    (deskAfter d item.task).table = d.table := by
  cases task : item.task <;> simp [deskAfter, noticesOf, task, Desk.tell, Desk.note]

/-- A console that has given some of the notices, the rest being those of the items that wait. -/
structure Owes (table : CommandTable) (notices : List Notice) (c : Console) : Prop where
  knows : c.world.table = table
  owed : c.world.notices ++ c.queue.toList.flatMap (noticesOf table) = notices

theorem step_owes {table : CommandTable} {notices : List Notice} (owes : Owes table notices c) {next : Console}
    (stepped : c.step? Desk.runTask = some next) : Owes table notices next ∧ next.pending + 1 = c.pending := by
  rcases step_eq stepped with ⟨item, rest, front, rfl⟩
  rcases deskAfter_notices c.world item with ⟨given, kept⟩
  have owed := owes.owed
  rw [front, List.flatMap_cons, ← List.append_assoc, ← owes.knows, ← given] at owed
  constructor
  · exact ⟨kept.trans owes.knows, owes.knows ▸ owed⟩
  · simp only [Host.pending_eq, front, List.length_cons]

/-- A drain that may run all that waits gives the notices of all that waits. -/
theorem drain_notices {limit : Nat} (enough : c.pending ≤ limit) :
    let drained := (c.runPending Desk.runTask limit).2
    drained.pending = 0 ∧
    drained.world.notices = c.world.notices ++ c.queue.toList.flatMap (noticesOf c.world.table) := by
  have owes : Owes c.world.table (c.world.notices ++ c.queue.toList.flatMap (noticesOf c.world.table)) c :=
    ⟨rfl, rfl⟩
  rcases Host.runPending_all (fun _ _ owes stepped => step_owes owes stepped) owes enough with ⟨-, empty⟩
  have last := (Host.runPending_keeps (fun _ _ owes stepped => (step_owes owes stepped).1) limit owes).owed
  rw [empty, List.flatMap_nil, List.append_nil] at last
  constructor
  · rw [Host.pending_eq, empty, List.length_nil]
  · exact last

/-! ### Utterances -/

/-- An event that does not speak of the session gives the notice of its payload. -/
theorem plain_notices {b : Bridge Channel} (listens : Listens b) (table : CommandTable) {event : EngineEvent}
    (plain : event.sessionRuns? = none) :
    (b.receive event).flatMap (noticesOf table) =
      (Notice.ofPayload? table event.channel event.payload).toList := by
  simp [listens.receive, Bridge.tellings, plain, delivery, noticesOf]

theorem utterance_notices {b : Bridge Channel} (listens : Listens b) (table : CommandTable) (v : Vocabulary)
    (utterance : String) :
    ((Simulator.utteranceEvents v utterance).flatMap b.receive).flatMap (noticesOf table) =
      (Simulator.beginnings (Text.words utterance)).map .recognizing ++
        [.resolved (table.resolve (Snapshot.capture (v.recognize (Text.spaced utterance))).toPayload)] := by
  have partials (texts : List String) :
      (texts.map fun text => EngineEvent.recognizing (.textOnly text)).flatMap
        (fun event => (b.receive event).flatMap (noticesOf table)) = texts.map .recognizing := by
    induction texts with
    | nil => rfl
    | cons text rest ih =>
        rw [List.map_cons, List.flatMap_cons, ih, plain_notices listens table rfl]
        rfl
  rw [Simulator.utteranceEvents, List.flatMap_assoc, List.flatMap_append, partials, List.flatMap_singleton,
    plain_notices listens table rfl]
  rfl

/-- A full drain after an utterance gives the notices that it gives anyway, then one for each beginning of the
utterance and the one that says what is to be done. -/
def Resolves (c : Console) (utterance : String) (dispatch : Dispatch) : Prop :=
  ∀ limit, (c.handle (.speak utterance)).pending ≤ limit →
    let quiet := (c.runPending Desk.runTask limit).2
    let heard := ((c.handle (.speak utterance)).runPending Desk.runTask limit).2
    heard.pending = 0 ∧ heard.world.notices = quiet.world.notices ++
      (Simulator.beginnings (Text.words utterance)).map .recognizing ++ [.resolved dispatch]

theorem Resolves.unique {utterance : String} {dispatch other : Dispatch} (first : Resolves c utterance dispatch)
    (second : Resolves c utterance other) : dispatch = other := by
  have same := (first _ le_rfl).2.symm.trans (second _ le_rfl).2
  simpa using same

theorem speak_resolves (serves : Serves lessons commands c)
    (active : c.world.session.engine.session.isSome = true) (utterance : String) :
    ∃ dispatch, CommandTable.Answers (registered lessons) ⟨commands⟩
        (Vocabulary.bias (hints lessons) (Text.spaced utterance)) dispatch ∧
      Resolves c utterance dispatch := by
  have reacts : c.world.session.engine.react (.speak utterance) =
      (c.world.session.engine, Simulator.utteranceEvents c.world.session.engine.vocabulary utterance) := by
    rcases Option.isSome_iff_exists.mp active with ⟨id, session⟩
    simp [Simulator.react, session]
  have spoken : c.handle (.speak utterance) = _ := react_eq serves (.speak utterance)
  simp only [reacts] at spoken
  refine ⟨_, CommandTable.recognize_answers serves.knows ⟨commands⟩ (Text.spaced utterance), ?_⟩
  intro limit enough
  rcases drain_notices enough with ⟨idle, given⟩
  have fewer : c.pending ≤ limit := by
    simp only [spoken, Host.pending, ← Fifo.length_toList, Fifo.toList_append, List.length_append] at enough ⊢
    omega
  rcases drain_notices fewer with ⟨-, otherwise⟩
  constructor
  · exact idle
  · rw [given, otherwise, spoken, Fifo.toList_append, List.flatMap_append, utterance_notices serves.listens,
      serves.table]
    simp only [List.append_assoc]

/-- However a console has been taught, before and between its turns, and whatever it has been through: an
utterance in a session is resolved exactly once, by the one answer to its text with single spaces and with hints
put in. -/
theorem utterance_dispatched {s : Settings} {credentials : Credentials} {ids : Nat → String} {c₀ : Console}
    (opened : open? s credentials ids = .ok c₀) (deeds : List Deed)
    (active : (c₀.after deeds).world.session.engine.session.isSome = true) (utterance : String) :
    let lessons := s.lessons ++ deeds.filterMap Deed.lesson?
    let text := Vocabulary.bias (hints lessons) (Text.spaced utterance)
    ∃ dispatch, Resolves (c₀.after deeds) utterance dispatch ∧
      ∀ answer, CommandTable.Answers (registered lessons) ⟨s.commands⟩ text answer ↔ answer = dispatch := by
  intro lessons text
  have serves := after_serves (open_serves opened) deeds
  rcases speak_resolves serves active utterance with ⟨dispatch, answers, resolves⟩
  refine ⟨dispatch, resolves, ?_⟩
  intro answer
  constructor
  · intro other
    exact other.unique answers
  · rintro rfl
    exact answers

/-- A hint makes the utterance match an intent, ahead of one that is taught later and matches too. -/
theorem hinted_utterance_dispatched :
    let s : Settings := ⟨none, none, [⟨"go to on line {lineNumber}", "G"⟩], ["on line"], [("undo", "undo")], ""⟩
    let deeds : List Deed := [.turn (.input .start), .teach (.intent "go {text}" "T")]
    let dispatch : Dispatch := .intent "G" [("lineNumber", "12")] [("lineNumber", 12)]
    CommandTable.Answers (registered (s.lessons ++ [.intent "go {text}" "T"])) ⟨s.commands⟩ "Go to on line 12"
      dispatch ∧
    Resolves ((opening s fun _ => "a").after deeds) "Go  to online 12" dispatch := by
  intro s deeds dispatch
  have opened := open_eq s ⟨"k", "r", by decide, by decide⟩ fun _ => "a"
  have active : ((opening s fun _ => "a").after deeds).world.session.engine.session.isSome = true := by
    decide +kernel
  have enough : (((opening s fun _ => "a").after deeds).handle (.speak "Go  to online 12")).pending ≤ 20 := by
    decide +kernel
  have notices : ((((opening s fun _ => "a").after deeds).handle (.speak "Go  to online 12")).runPending
      Desk.runTask 20).2.world.notices = [.started "a", .recognizing "Go", .recognizing "Go to",
        .recognizing "Go to online", .recognizing "Go to online 12", .resolved dispatch] := by
    decide +kernel
  have text : Vocabulary.bias (hints (s.lessons ++ deeds.filterMap Deed.lesson?))
      (Text.spaced "Go  to online 12") = "Go to on line 12" := by decide +kernel
  rcases utterance_dispatched opened deeds active "Go  to online 12" with ⟨resolved, resolves, answers⟩
  have last := congrArg List.getLast? (notices.symm.trans (resolves 20 enough).2)
  rw [List.getLast?_concat] at last
  obtain rfl : dispatch = resolved := by simpa using last
  rw [text] at answers
  exact ⟨(answers dispatch).mpr rfl, resolves⟩

end Console

end SpokenIntent
