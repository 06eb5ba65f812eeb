import SpokenIntent.Proofs.Console.Opening

/-!
The sessions of a console, over all that may happen at it. They are numbered from zero and follow one
another, so their beginnings and ends are too: the milestones, of which the even ones are beginnings. A
console has told of some of them, the next ones wait, and the engine has come to the last of these. Each
waits as two items: the host is told, then the notice is given.
-/

namespace SpokenIntent

def milestone (ids : Nat → String) (n : Nat) : EngineEvent :=
  if n % 2 = 0 then .started (ids (n / 2)) else .stopped (ids (n / 2))

def milestoneNotice (ids : Nat → String) (n : Nat) : Notice :=
  if n % 2 = 0 then .started (ids (n / 2)) else .stopped (ids (n / 2))

/-- The notices of the milestones before some number. -/
def milestoneNotices (ids : Nat → String) (n : Nat) : List Notice :=
  (List.range n).map (milestoneNotice ids)

/-- A notice that a session has begun or is over. -/
def Notice.marksSession : Notice → Bool
  | .started _ => true
  | .stopped _ => true
  | .canceled _ _ => true
  | _ => false

def Console.sessionNotices (c : Console) : List Notice := c.world.notices.filter Notice.marksSession

theorem milestoneNotices_succ (ids : Nat → String) (n : Nat) :
    milestoneNotices ids (n + 1) = milestoneNotices ids n ++ [milestoneNotice ids n] := by
  simp [milestoneNotices, List.range_succ]

/-! ### The engine -/

namespace Simulator

/-- The engine of a console, when the milestones before `m` are all it has come to. -/
structure Reached (ids : Nat → String) (m : Nat) (e : Simulator Unit) : Prop where
  accepts : e.accepts = true
  sameIds : e.ids = ids
  receiver : e.receiver = some ()
  issued : e.issued = (m + 1) / 2
  session : e.session = if m % 2 = 1 then some (ids (m / 2)) else none

/-- The events that take an engine from one milestone to another. -/
inductive Passes (ids : Nat → String) : Nat → List EngineEvent → Nat → Prop where
  | hypotheses {n : Nat} {events : List EngineEvent} (plain : ∀ event ∈ events, event.sessionRuns? = none) :
      Passes ids n events n
  | milestone (n : Nat) : Passes ids n [milestone ids n] (n + 1)

variable {ids : Nat → String} {m : Nat} {e : Simulator Unit}

theorem start_reached (reached : Reached ids m e) :
    ∃ m', Reached ids m' (obey .start e).engine ∧ Passes ids m (obey .start e).fired m' := by
  obtain ⟨accepts, sameIds, receiver, issued, session⟩ := reached
  rw [obey_eq e receiver]
  by_cases odd : m % 2 = 1
  · -- in a session a start comes to nothing
    refine ⟨m, ?_, ?_⟩ <;> simp only [odd, ↓reduceIte] at session <;>
      simp only [react, begin, note, session]
    · exact ⟨accepts, sameIds, receiver, issued, by simp [odd]⟩
    · exact .hypotheses (by simp)
  · refine ⟨m + 1, ?_, ?_⟩ <;> simp only [odd, ↓reduceIte] at session <;>
      simp only [react, begin, note, session, accepts, ↓reduceIte]
    · refine ⟨rfl, sameIds, receiver, by simp only; omega, ?_⟩
      have half : (m + 1) / 2 = m / 2 := by omega
      simp [sameIds, issued, half, show (m + 1) % 2 = 1 by omega]
    · have begins : milestone ids m = .started (e.ids e.issued) := by
        simp [milestone, show m % 2 = 0 by omega, sameIds, issued, show (m + 1) / 2 = m / 2 by omega]
      rw [← begins]
      exact .milestone m

/-- After a stop there is no session. -/
theorem stop_reached (reached : Reached ids m e) :
    ∃ m', Reached ids m' (obey .stop e).engine ∧ Passes ids m (obey .stop e).fired m' ∧ m' % 2 = 0 := by
  obtain ⟨accepts, sameIds, receiver, issued, session⟩ := reached
  rw [obey_eq e receiver]
  by_cases odd : m % 2 = 1
  · refine ⟨m + 1, ?_, ?_, by omega⟩ <;> simp only [odd, ↓reduceIte] at session <;>
      simp only [react, finish, note, session]
    · exact ⟨accepts, sameIds, receiver, by simp only; omega, by simp [show (m + 1) % 2 ≠ 1 by omega]⟩
    · have ends : milestone ids m = .stopped (ids (m / 2)) := by simp [milestone, odd]
      rw [← ends]
      exact .milestone m
  · refine ⟨m, ?_, ?_, by omega⟩ <;> simp only [odd, ↓reduceIte] at session <;>
      simp only [react, finish, note, session]
    · exact ⟨accepts, sameIds, receiver, issued, by simp [odd]⟩
    · exact .hypotheses (by simp)

theorem speak_reached (reached : Reached ids m e) (text : String) :
    Reached ids m (obey (.speak text) e).engine ∧ Passes ids m (obey (.speak text) e).fired m := by
  rw [obey_eq e reached.receiver]
  simp only [react]
  cases e.session with
  | none => exact ⟨reached, .hypotheses (by simp)⟩
  | some id =>
      refine ⟨reached, .hypotheses fun event member => ?_⟩
      simp only [utteranceEvents, List.mem_append, List.mem_map, List.mem_singleton] at member
      obtain ⟨_, -, rfl⟩ | rfl := member <;> rfl

theorem study_reached (reached : Reached ids m e) (lesson : Lesson) : Reached ids m (e.study lesson) := by
  cases lesson <;> exact ⟨reached.accepts, reached.sameIds, reached.receiver, reached.issued, reached.session⟩

theorem studies_reached (reached : Reached ids m e) (lessons : List Lesson) :
    Reached ids m (lessons.foldl study e) := by
  induction lessons generalizing e with
  | nil => exact reached
  | cons lesson rest ih => exact ih (study_reached reached lesson)

end Simulator

namespace Console

/-! ### What waits -/

/-- The item that says of a session that it runs, or that it does not. -/
def telling (ids : Nat → String) (n : Nat) : Item (BridgeTask Channel) :=
  ⟨(milestone ids n).channel.name, .tell (decide (n % 2 = 0))⟩

/-- Items that take a console from milestone `n` to milestone `m`. It has been told of `n` already when
the notice of that one is owed. -/
inductive Waiting (ids : Nat → String) : Nat → Bool → List (Item (BridgeTask Channel)) → Nat → Prop where
  | none (n : Nat) : Waiting ids n false [] n
  | hypothesis {n m : Nat} {items : List (Item (BridgeTask Channel))} {event : EngineEvent}
      (plain : event.sessionRuns? = none) (rest : Waiting ids n false items m) :
      Waiting ids n false (delivery event :: items) m
  | tell {n m : Nat} {items : List (Item (BridgeTask Channel))} (rest : Waiting ids n true items m) :
      Waiting ids n false (telling ids n :: items) m
  | deliver {n m : Nat} {items : List (Item (BridgeTask Channel))}
      (rest : Waiting ids (n + 1) false items m) :
      Waiting ids n true (delivery (milestone ids n) :: items) m

theorem Waiting.append {ids : Nat → String} {n m k : Nat} {owed : Bool}
    {items more : List (Item (BridgeTask Channel))} (first : Waiting ids n owed items m)
    (second : Waiting ids m false more k) : Waiting ids n owed (items ++ more) k := by
  induction first with
  | none n => exact second
  | hypothesis plain _ ih => exact .hypothesis plain (ih second)
  | tell _ ih => exact .tell (ih second)
  | deliver _ ih => exact .deliver (ih second)

/-- What the engine fires on its way waits as items that take the console the same way. -/
theorem passes_waiting {b : Bridge Channel} (listens : Listens b) {ids : Nat → String} {n m : Nat}
    {events : List EngineEvent} (passes : Simulator.Passes ids n events m) :
    Waiting ids n false (events.flatMap b.receive) m := by
  cases passes with
  | milestone =>
      have tells : Bridge.tellings (milestone ids n) = [telling ids n] := by
        by_cases even : n % 2 = 0 <;>
          simp [Bridge.tellings, telling, milestone, even, EngineEvent.sessionRuns?]
      simp only [List.flatMap_singleton, listens.receive, tells]
      exact .tell (.deliver (.none _))
  | hypotheses plain =>
      induction events with
      | nil => exact .none _
      | cons event rest ih =>
          have plainly := plain event List.mem_cons_self
          rw [List.flatMap_cons, listens.receive, Bridge.tellings, plainly]
          exact .hypothesis plainly (ih fun later member => plain later (List.mem_cons_of_mem _ member))

/-! ### The account of a console -/

/-- A console has told of the milestones before `n`, and the host of one more when the notice of that one
is `owed`; its engine has come to `m`. -/
structure Orderly (ids : Nat → String) (n : Nat) (owed : Bool) (m : Nat) (c : Console) : Prop where
  living : c.alive = true
  listens : Listens c.world.session.bridge
  engine : Simulator.Reached ids m c.world.session.engine
  waiting : Waiting ids n owed c.queue.toList m
  flag : c.world.session.bridge.running = decide ((n + owed.toNat) % 2 = 1)
  notices : c.sessionNotices = milestoneNotices ids n

variable {ids : Nat → String} {n m : Nat} {owed : Bool} {c : Console}

/-- A request takes the engine on, and what it fires is added to what waits. -/
theorem react_orderly (orderly : Orderly ids n owed m c)
    (f : Simulator Unit → Reaction (Simulator Unit)) {m' : Nat}
    (reached : Simulator.Reached ids m' (f c.world.session.engine).engine)
    (passes : Simulator.Passes ids m (f c.world.session.engine).fired m') :
    Orderly ids n owed m' (c.perform (Desk.onSession (Session.react f))).2 := by
  obtain ⟨living, listens, engine, waiting, flag, notices⟩ := orderly
  rw [Host.perform_eq, Desk.onSession, Work.within_leave, Session.react_leave]
  refine ⟨living, listens, reached, ?_, flag, notices⟩
  have more := waiting.append (passes_waiting listens passes)
  simpa [Host.accepts, living] using more

/-- To quit and to type nothing do nothing; a stop leaves no session behind. -/
theorem handle_orderly (orderly : Orderly ids n owed m c) (input : ConsoleInput) :
    ∃ m', Orderly ids n owed m' (c.handle input) ∧ (input = .stop → m' % 2 = 0) := by
  cases input with
  | start =>
      obtain ⟨m', reached, passes⟩ := Simulator.start_reached orderly.engine
      exact ⟨m', react_orderly orderly (Simulator.obey .start) reached passes, nofun⟩
  | stop =>
      obtain ⟨m', reached, passes, even⟩ := Simulator.stop_reached orderly.engine
      exact ⟨m', react_orderly orderly (Simulator.obey .stop) reached passes, fun _ => even⟩
  | speak text =>
      obtain ⟨reached, passes⟩ := Simulator.speak_reached orderly.engine text
      exact ⟨m, react_orderly orderly (Simulator.obey (.speak text)) reached passes, nofun⟩
  | status =>
      refine ⟨m, ?_, nofun⟩
      obtain ⟨living, listens, engine, waiting, flag, notices⟩ := orderly
      rw [handle, Desk.handle, Host.perform_update]
      refine ⟨living, listens, engine, waiting, flag, ?_⟩
      simpa [sessionNotices, Desk.note, Notice.marksSession] using notices
  | quit =>
      rw [handle, Desk.handle, Host.perform_pure]
      exact ⟨m, orderly, nofun⟩
  | nothing =>
      rw [handle, Desk.handle, Host.perform_pure]
      exact ⟨m, orderly, nofun⟩

/-! ### Items that run -/

/-- The desk after an item. -/
def deskAfter (d : Desk) : BridgeTask Channel → Desk
  | .tell running => d.tell running
  | .deliver relay payload => d.note (Notice.ofPayload? d.table relay.callback payload).toList

theorem execute_eq (c : Console) (item : Item (BridgeTask Channel)) :
    Host.execute Desk.runTask c item = { c with world := deskAfter c.world item.task, seq := c.seq + 1 } := by
  have left : (Desk.runTask (c.scopeOf item) item.task).leave c.world =
      ⟨deskAfter c.world item.task, [], []⟩ := by
    cases item.task <;> rfl
  have calm : (Desk.runTask (c.scopeOf item) item.task).panic? c.world = none := by
    cases item.task <;> rfl
  rw [Host.execute_eq, left, calm]
  obtain ⟨world, queue, seq, log, alive⟩ := c
  cases alive <;> simp [Host.accepts, Fifo.append]

theorem step_eq {next : Console} (stepped : c.step? Desk.runTask = some next) :
    ∃ item rest, c.queue.toList = item :: rest.toList ∧
      next = { c with queue := rest, world := deskAfter c.world item.task, seq := c.seq + 1 } := by
  obtain ⟨item, rest, front, rfl⟩ := Host.step?_eq_some stepped
  exact ⟨item, rest, front, execute_eq _ item⟩

/-- An item that runs: a hypothesis changes no account, a telling owes a notice, and the notice that is
owed is given. -/
theorem step_orderly (orderly : Orderly ids n owed m c) {next : Console}
    (stepped : c.step? Desk.runTask = some next) :
    if owed then Orderly ids (n + 1) false m next
    else Orderly ids n false m next ∨ Orderly ids n true m next := by
  obtain ⟨item, rest, front, rfl⟩ := step_eq stepped
  obtain ⟨living, listens, engine, waiting, flag, notices⟩ := orderly
  rw [front] at waiting
  cases waiting with
  | hypothesis plain waiting =>
      refine .inl ⟨living, listens, engine, waiting, flag, ?_⟩
      rw [← notices]
      rename_i event
      cases event <;> simp_all [sessionNotices, deskAfter, delivery, Desk.note, EngineEvent.sessionRuns?,
        EngineEvent.channel, EngineEvent.payload, Notice.ofPayload?, Notice.marksSession]
  | tell waiting =>
      refine .inr ⟨living, ⟨listens.attached, listens.slots⟩, engine, waiting, ?_, notices⟩
      simp only [deskAfter, telling, Desk.tell, Session.told, Bool.toNat_true, decide_eq_decide]
      omega
  | deliver waiting =>
      refine ⟨living, listens, engine, waiting, flag.trans (by simp), ?_⟩
      rw [milestoneNotices_succ, ← notices]
      by_cases even : n % 2 = 0 <;>
        simp [sessionNotices, deskAfter, delivery, milestone, milestoneNotice, even, Desk.note,
          EngineEvent.channel, EngineEvent.payload, Notice.ofPayload?, Notice.marksSession]

theorem drain_orderly (limit : Nat) (orderly : Orderly ids n owed m c) :
    ∃ n' owed', Orderly ids n' owed' m (c.runPending Desk.runTask limit).2 := by
  have step : ∀ c next : Console, (∃ n owed, Orderly ids n owed m c) →
      c.step? Desk.runTask = some next → ∃ n owed, Orderly ids n owed m next := by
    rintro c next ⟨n, owed, orderly⟩ stepped
    have moved := step_orderly orderly stepped
    cases owed with
    | true => exact ⟨n + 1, false, moved⟩
    | false => exact moved.elim (fun same => ⟨n, false, same⟩) fun told => ⟨n, true, told⟩
  exact Host.runPending_keeps step limit ⟨n, owed, orderly⟩

theorem play_orderly (orderly : Orderly ids n owed m c) (turns : List Turn) :
    ∃ n' owed' m', Orderly ids n' owed' m' (c.play turns) := by
  induction turns generalizing c n owed m with
  | nil => exact ⟨n, owed, m, orderly⟩
  | cons turn rest ih =>
      cases turn with
      | input i =>
          obtain ⟨m', handled, -⟩ := handle_orderly orderly i
          exact ih handled
      | drain =>
          obtain ⟨n', owed', drained⟩ := drain_orderly drainLimit orderly
          exact ih drained

/-! ### The beginning -/

theorem open_orderly {s : Settings} {credentials : Credentials}
    (opened : open? s credentials ids = .ok c) : Orderly ids 0 false 0 c := by
  rw [open_eq, Except.ok.injEq] at opened
  subst opened
  have fresh : Simulator.Reached ids 0 (freshEngine ids) := ⟨rfl, rfl, rfl, rfl, rfl⟩
  exact ⟨rfl, listeningBridge_listens, Simulator.studies_reached fresh s.lessons, .none 0, rfl, rfl⟩

end Console

end SpokenIntent
