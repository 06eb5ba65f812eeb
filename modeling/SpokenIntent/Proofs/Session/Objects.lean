import Mathlib.Logic.Relation
import SpokenIntent.Proofs.Host.Chronicle
import SpokenIntent.Proofs.Recognition.Conversation
import SpokenIntent.Proofs.Session.Ledger
import SpokenIntent.Proofs.Session.Requests
import SpokenIntent.Session.ObjectScript

/-!
Bridge objects over simulated engines, at every moment of whatever is done with them. The engine knows of its
session at once, the host only when the item that tells it so has run. So what they have to say of the session
agrees as far as it has been told, then as far as it waits to be: the last telling of all is what the engine
has, the last of those that have run is the flag.

An item may be taken at any moment, so that callbacks may also drain the queue themselves.
-/

namespace SpokenIntent.ObjectScript

/-! ### What is told of a session -/

/-- What items tell the host of the session of one object. -/
def tellings (serial : Nat) (items : List (Item Task)) : List Bool :=
  items.filterMap fun item =>
    if item.task.serial = serial then BridgeScript.BridgeTask.telling? item.task.task else none

theorem tellings_append (serial : Nat) (left right : List (Item Task)) :
    tellings serial (left ++ right) = tellings serial left ++ tellings serial right := by
  simp [tellings]

theorem tellings_own (serial : Nat) (posted : List (Item (BridgeTask HostFunction))) :
    tellings serial (posted.map (Item.map (Task.mk serial))) = BridgeScript.tellings posted := by
  simp [tellings, BridgeScript.tellings, Item.map, List.filterMap_map, Function.comp_def]

/-- Nothing has been posted yet for an object that is to come. -/
theorem tellings_later (serial : Nat) (items : List (Item Task))
    (known : ∀ item ∈ items, item.task.serial ≤ serial) : tellings (serial + 1) items = [] := by
  rw [tellings, List.filterMap_eq_nil_iff]
  intro item member
  have earlier := known item member
  rw [if_neg (by omega)]

theorem last_append (first more : List Bool) (flag : Bool) :
    (first ++ more).getLastD flag = more.getLastD (first.getLastD flag) := by
  cases more with
  | nil => simp
  | cons b rest => simp [List.getLastD_eq_getLast?, List.getLast?_append]

/-! ### What is asked of a bridge -/

/-- What is done with a bridge takes it on: the flag stays, a bridge that is gone does not come back, and as long
as it is there its engine has it for a receiver, and tells of the session what it then has. -/
structure Advances (s : ObjectSession) (left : Effects ObjectSession (BridgeTask HostFunction)) : Prop where
  running : left.world.bridge.running = s.bridge.running
  attached : left.world.bridge.detached = false → s.bridge.detached = false
  agrees : left.world.bridge.detached = false → s.engine.engine.receiver = some () →
    left.world.engine.engine.receiver = some () ∧
    (BridgeScript.tellings left.posted).getLastD s.engine.engine.session.isSome =
      left.world.engine.engine.session.isSome

/-- Of its engine nothing is asked, so nothing is told. -/
theorem unasked_advances (s : ObjectSession) (bridge : Bridge HostFunction)
    (running : bridge.running = s.bridge.running) (detached : bridge.detached = s.bridge.detached) :
    Advances s ⟨⟨s.engine, bridge⟩, [], []⟩ := by
  constructor
  · exact running
  · intro here
    rw [← detached]
    exact here
  · intro _ receiver
    exact ⟨receiver, rfl⟩

theorem receive_tellings (b : Bridge HostFunction) (event : EngineEvent) (here : b.detached = false) :
    BridgeScript.tellings (b.receive event) = event.sessionRuns?.toList := by
  simp only [Bridge.receive, here, Bool.false_eq_true, ↓reduceIte, BridgeScript.tellings_append]
  have quiet : BridgeScript.tellings (b.deliveries event) = [] := by
    simp [BridgeScript.tellings, Bridge.deliveries, BridgeScript.BridgeTask.telling?]
  rw [quiet, List.append_nil, Bridge.tellings]
  cases event.sessionRuns? <;> rfl

theorem received_tellings (b : Bridge HostFunction) (events : List EngineEvent) (here : b.detached = false) :
    BridgeScript.tellings (events.flatMap b.receive) = events.filterMap EngineEvent.sessionRuns? := by
  induction events with
  | nil => rfl
  | cons event rest ih =>
      rw [List.flatMap_cons, BridgeScript.tellings_append, receive_tellings b event here, ih]
      cases tells : event.sessionRuns? <;> simp [tells]

/-- A command after which the receiver is who it was before. -/
theorem command_advances (s : ObjectSession) (c : SimulatorCommand Unit)
    (stays : c.listening (some ()) = some ()) :
    Advances s ((Session.react (Tapped.lift (Simulator.obey c)) :
      Session.Act (Tapped (Simulator Unit)) HostFunction Unit).leave s) := by
  rw [Session.react_leave]
  constructor
  · rfl
  · exact id
  · intro here receiver
    simp only [Tapped.lift, Simulator.obey_eq s.engine.engine receiver, received_tellings s.bridge _ here]
    rw [Simulator.react_receiver, receiver]
    exact ⟨stays, Simulator.react_session s.engine.engine c⟩

theorem call_advances (s : ObjectSession) (call : ObjectCall) :
    Advances s ((call.perform : Session.Act (Tapped (Simulator Unit)) HostFunction HostValue).leave s) := by
  cases call with
  | addIntent phrase intentId =>
      rw [ObjectCall.perform, Work.leave_pure]
      exact command_advances s (.addIntent phrase intentId) rfl
  | addPhrase phrase =>
      rw [ObjectCall.perform, Work.leave_pure]
      exact command_advances s (.addPhrase phrase) rfl
  | start =>
      rw [ObjectCall.perform, Work.leave_pure]
      exact command_advances s .start rfl
  | stop =>
      rw [ObjectCall.perform, Work.leave_pure]
      exact command_advances s .stop rfl
  | on channel callback =>
      rw [ObjectCall.perform, Work.leave_pure]
      exact unasked_advances s _ rfl rfl
  | isRunning => exact unasked_advances s _ rfl rfl

theorem invoke_advances (s : ObjectSession) (method : String) (args : List HostValue) :
    Advances s ((Session.invoke method args : Session.Act (Tapped (Simulator Unit)) HostFunction _).leave s) := by
  cases parsed : ObjectCall.parse method args with
  | error e =>
      simp only [Session.invoke, parsed]
      exact unasked_advances s _ rfl rfl
  | ok call =>
      simp only [Session.invoke, parsed]
      rw [Work.leave_pure]
      exact call_advances s call

theorem teardown_advances (s : ObjectSession) :
    Advances s ((Session.teardown : Session.Act (Tapped (Simulator Unit)) HostFunction Unit).leave s) := by
  rw [Work.leave, Session.teardown_run]
  constructor
  · rfl
  · intro here
    cases here
  · intro here
    cases here

/-! ### What acts leave -/

/-- What is left when the newest object has been taken on, or when nothing has been done. -/
inductive Leaves (s : Stage) : Effects Stage Task → Prop where
  | nothing : Leaves s ⟨s, [], []⟩
  | advanced {session : ObjectSession} {left : Effects ObjectSession (BridgeTask HostFunction)}
      (latest : s.latest = some session) (advances : Advances session left) :
      Leaves s ⟨{ s with latest := some left.world }, left.posted.map (Item.map (Task.mk s.created)), left.log⟩

theorem onLatest_leaves {α : Type} {s : Stage} {session : ObjectSession} (latest : s.latest = some session)
    {act : Session.Act (Tapped (Simulator Unit)) HostFunction α} (advances : Advances session (act.leave session)) :
    Leaves s ((onLatest session act).leave s) := by
  rw [onLatest, Work.leave_read, Work.within_leave]
  exact .advanced latest advances

theorem command_leaves (c : SimulatorCommand Unit) (stays : c.listening (some ()) = some ()) (s : Stage) :
    Leaves s ((command c).leave s) := by
  rw [command, withEngine, Work.leave_read]
  cases latest : s.latest with
  | none => exact .nothing
  | some session =>
      simp only
      rw [Work.leave_pure]
      exact onLatest_leaves latest (command_advances session c stays)

theorem act_leaves (a : Act) (s : Stage) : Leaves s (a.run.leave s) := by
  cases a with
  | speak utterance => exact command_leaves (.speak utterance) rfl s
  | fail code details => exact command_leaves (.fail code details) rfl s
  | endOfStream => exact command_leaves .endOfStream rfl s
  | clearPhrases => exact command_leaves .clearPhrases rfl s
  | created => exact .nothing
  | invoke method args =>
      rw [Act.run, withObject, Work.leave_read]
      cases latest : s.latest with
      | none => exact .nothing
      | some session =>
          by_cases gone : session.bridge.detached = true
          · simp only [gone, ↓reduceIte]
            exact .nothing
          · simp only [gone, Bool.false_eq_true, ↓reduceIte]
            rw [Work.leave_then _ _ _ fun result _ => by cases result <;> exact ⟨_, rfl⟩]
            exact onLatest_leaves latest (invoke_advances session method args)
  | letGo =>
      rw [Act.run, Work.leave_read]
      cases latest : s.latest with
      | none => exact .nothing
      | some session =>
          by_cases gone : session.bridge.detached = true
          · simp only [gone, ↓reduceIte]
            exact .nothing
          · simp only [gone, Bool.false_eq_true, ↓reduceIte]
            rw [Work.leave_pure]
            exact onLatest_leaves latest (teardown_advances session)
  | isRunning =>
      rw [Act.run, withObject, Work.leave_read]
      cases s.latest with
      | none => exact .nothing
      | some session =>
          by_cases gone : session.bridge.detached = true
          · simp only [gone, ↓reduceIte]
            exact .nothing
          · simp only [gone, Bool.false_eq_true, ↓reduceIte]
            exact .nothing
  | requests =>
      rw [Act.run, withEngine, Work.leave_read]
      cases s.latest <;> exact .nothing
  | phrases =>
      rw [Act.run, withEngine, Work.leave_read]
      cases s.latest <;> exact .nothing
  | intentCount =>
      rw [Act.run, withEngine, Work.leave_read]
      cases s.latest <;> exact .nothing

/-! ### New objects -/

/-- An object of which nothing has been asked yet. -/
structure Fresh (session : ObjectSession) : Prop where
  running : session.bridge.running = false
  receiver : session.engine.engine.receiver = some ()
  idle : session.engine.engine.session = none

/-- An object as it is made. -/
def newborn (accepts : Bool) (ids : Nat → String) : ObjectSession :=
  ⟨⟨(Simulator.obey (.connect ()) (Simulator.create accepts ids)).engine, []⟩, Bridge.create⟩

theorem newborn_fresh (accepts : Bool) (ids : Nat → String) : Fresh (newborn accepts ids) := ⟨rfl, rfl, rfl⟩

/-- An engine of this kind takes part in silence, so there is an object wherever there are credentials. -/
theorem construct_simulated {σ : Type} (accepts : Bool) (ids : Nat → String) (args : List HostValue) :
    (Session.construct (Tapped.factory (Simulator.factory accepts ids)) args : Work σ (BridgeTask HostFunction) _) =
      pure (match Credentials.ofHostValue args.head? with
        | .error e => .error (.credentials e)
        | .ok _ => .ok (newborn accepts ids)) := by
  cases found : Credentials.ofHostValue args.head? with
  | error e => simp only [Session.construct, found]
  | ok c =>
      have made : Tapped.factory (Simulator.factory accepts ids) c = .ok ⟨Simulator.create accepts ids, []⟩ := rfl
      simp only [Session.construct, found, Session.establish_silent made rfl rfl, pure_bind]
      rfl

/-- A construction fails and does nothing, or puts a new object in the place of the newest one; that one's last
words are heard by nobody. -/
theorem construct_leave (args : List HostValue) (s : Stage) :
    (construct args).leave s = ⟨s, [], []⟩ ∨
    ∃ used session lines, Fresh session ∧
      (construct args).leave s =
        ⟨{ s with idsUsed := used, created := s.created + 1, latest := some session }, [], lines⟩ := by
  rw [construct, Work.leave_read]
  simp only [Work.leave, Work.bind_apply, construct_simulated, Work.within_pure]
  cases Credentials.ofHostValue args.head? with
  | error e => exact .inl rfl
  | ok c =>
      generalize s.idsUsed + s.latest.elim 0 (fun session => session.engine.engine.issued) = used
      refine .inr ⟨used, newborn s.accepts fun n => s.ids (used + n), ?_⟩
      simp only [Work.bind_apply, Work.update_apply]
      cases latest : s.latest with
      | none => exact ⟨[], newborn_fresh _ _, rfl⟩
      | some old =>
          by_cases gone : old.bridge.detached = true
          · simp only [gone, ↓reduceIte]
            exact ⟨[], newborn_fresh _ _, rfl⟩
          · simp only [gone, Bool.false_eq_true, ↓reduceIte, Work.bind_apply, Work.within, Session.teardown_run]
            exact ⟨_, newborn_fresh _ _, rfl⟩

/-! ### Moments -/

/-- The stage after the host has taken an item, apart from what its callback does. -/
def Stage.heed (task : Task) (s : Stage) : Stage :=
  match task.task with
  | .tell running => s.tell task.serial running
  | .deliver _ _ => s

/-- One thing that happens, with the items that have been taken from the queue so far. -/
inductive Next : Play × List (Item Task) → Play × List (Item Task) → Prop where
  | construct (h : Play) (taken : List (Item Task)) (args : List HostValue) :
      Next (h, taken) ((h.perform (ObjectScript.construct args)).2, taken)
  | act (h : Play) (taken : List (Item Task)) (a : Act) : Next (h, taken) ((h.perform a.run).2, taken)
  | take {h : Play} {taken : List (Item Task)} {item : Item Task} {rest : Fifo (Item Task)}
      (front : h.queue.pop? = some (item, rest)) :
      Next (h, taken)
        ({ h with queue := rest, seq := h.seq + 1, world := h.world.heed item.task }, taken ++ [item])
  | note (h : Play) (taken : List (Item Task)) (record : Record) :
      Next (h, taken) ({ h with world := h.world.note record }, taken)
  | report (h : Play) (taken : List (Item Task)) (lines : List LogEntry) :
      Next (h, taken) ({ h with log := h.log ++ lines }, taken)

abbrev Later : Play × List (Item Task) → Play × List (Item Task) → Prop := Relation.ReflTransGen Next

/-- What may come to pass on a stage, with credentials that are accepted or that are not. -/
def Moment (accepts : Bool) (ids : Nat → String) (h : Play) (taken : List (Item Task)) : Prop :=
  Later (Host.start (Stage.create accepts ids), []) (h, taken)

/-! ### What all moments have in common -/

/-- What the newest object has been told, and then is to be told, ends with what its engine has. -/
structure Agreed (h : Play) (taken : List (Item Task)) : Prop where
  living : h.alive = true
  known : ∀ item ∈ taken ++ h.queue.toList, item.task.serial ≤ h.world.created
  flag : ∀ session, h.world.latest = some session →
    session.bridge.running = (tellings h.world.created taken).getLastD false
  agrees : ∀ session, h.world.latest = some session → session.bridge.detached = false →
    session.engine.engine.receiver = some () ∧
    (tellings h.world.created (taken ++ h.queue.toList)).getLastD false = session.engine.engine.session.isSome

theorem start_agreed (accepts : Bool) (ids : Nat → String) : Agreed (Host.start (Stage.create accepts ids)) [] := by
  constructor
  · rfl
  · intro item member
    cases member
  · intro session latest
    cases latest
  · intro session latest
    cases latest

theorem leaves_agreed {h : Play} {taken : List (Item Task)} (agreed : Agreed h taken) {left : Effects Stage Task}
    (leaves : Leaves h.world left) :
    Agreed { h with world := left.world, queue := h.queue.append left.posted, log := h.log ++ left.log } taken := by
  cases leaves with
  | nothing => simpa [Fifo.append] using agreed
  | advanced latest advances =>
      rename_i session left
      constructor
      · exact agreed.living
      · intro item member
        simp only [Fifo.toList_append, ← List.append_assoc, List.mem_append, List.mem_map] at member
        rcases member with waited | ⟨posted, _, rfl⟩
        · exact agreed.known item (List.mem_append.mpr waited)
        · exact Nat.le_refl _
      · rintro _ ⟨⟩
        rw [advances.running]
        exact agreed.flag session latest
      · rintro _ ⟨⟩ here
        obtain ⟨receiver, before⟩ := agreed.agrees session latest (advances.attached here)
        obtain ⟨still, after⟩ := advances.agrees here receiver
        refine ⟨still, ?_⟩
        simp only [Fifo.toList_append]
        rw [← List.append_assoc, tellings_append, last_append, before, tellings_own, after]

theorem construct_agreed {h : Play} {taken : List (Item Task)} (agreed : Agreed h taken) (args : List HostValue) :
    Agreed (h.perform (construct args)).2 taken := by
  rw [Host.perform_eq]
  rcases construct_leave args h.world with failed | ⟨used, session, lines, fresh, made⟩
  · rw [failed]
    simpa [Host.accepts, Fifo.append] using agreed
  · -- of the new object nothing has been told, and nothing waits
    have untold := tellings_later h.world.created _ agreed.known
    have unknown : tellings (h.world.created + 1) taken = [] := by
      rw [tellings_append, List.append_eq_nil_iff] at untold
      exact untold.1
    rw [made]
    constructor
    · exact agreed.living
    · intro item member
      simp only [Host.accepts, ite_self, Fifo.toList_append, List.append_nil] at member
      exact Nat.le_succ_of_le (agreed.known item member)
    · rintro _ ⟨⟩
      rw [fresh.running, unknown]
      rfl
    · rintro _ ⟨⟩ _
      refine ⟨fresh.receiver, ?_⟩
      simp only [Host.accepts, ite_self, Fifo.toList_append, List.append_nil, untold, fresh.idle]
      rfl

@[simp] theorem heed_created (task : Task) (s : Stage) : (s.heed task).created = s.created := by
  obtain ⟨serial, task⟩ := task
  cases task with
  | deliver relay payload => rfl
  | tell running =>
      simp only [Stage.heed, Stage.tell]
      split <;> rfl

/-- An item that is taken changes nothing of the newest object but its flag, and that one if it tells of it. -/
theorem heed_latest (item : Item Task) {s : Stage} {session : ObjectSession}
    (latest : (s.heed item.task).latest = some session) :
    ∃ before, s.latest = some before ∧ session.engine = before.engine ∧
      session.bridge.detached = before.bridge.detached ∧
      session.bridge.running = (tellings s.created [item]).getLastD before.bridge.running := by
  obtain ⟨origin, serial, task⟩ := item
  cases task with
  | deliver relay payload =>
      refine ⟨session, latest, rfl, rfl, ?_⟩
      simp [tellings, BridgeScript.BridgeTask.telling?]
  | tell running =>
      by_cases newest : serial = s.created
      · subst newest
        simp only [Stage.heed, Stage.tell, ↓reduceIte, Option.map_eq_some_iff] at latest
        obtain ⟨before, same, rfl⟩ := latest
        refine ⟨before, same, rfl, rfl, ?_⟩
        simp [tellings, BridgeScript.BridgeTask.telling?, Session.told]
      · -- an object that is no longer the newest is told of in vain
        simp only [Stage.heed, Stage.tell, newest, ↓reduceIte] at latest
        refine ⟨session, latest, rfl, rfl, ?_⟩
        simp [tellings, newest]

theorem take_agreed {h : Play} {taken : List (Item Task)} (agreed : Agreed h taken) {item : Item Task}
    {rest : Fifo (Item Task)} (front : h.queue.pop? = some (item, rest)) :
    Agreed { h with queue := rest, seq := h.seq + 1, world := h.world.heed item.task } (taken ++ [item]) := by
  have moved : taken ++ [item] ++ rest.toList = taken ++ h.queue.toList := by
    rw [Fifo.toList_of_pop? front, List.append_assoc, List.singleton_append]
  constructor
  · exact agreed.living
  · simp only [moved, heed_created]
    exact agreed.known
  · intro session latest
    obtain ⟨before, same, -, -, running⟩ := heed_latest item latest
    simp only [running, agreed.flag before same, heed_created, tellings_append, last_append]
  · intro session latest here
    obtain ⟨before, same, engine, detached, -⟩ := heed_latest item latest
    simp only [engine, moved, heed_created]
    exact agreed.agrees before same (detached ▸ here)

theorem next_agreed {now after : Play × List (Item Task)} (step : Next now after) (agreed : Agreed now.1 now.2) :
    Agreed after.1 after.2 := by
  cases step with
  | construct h taken args => exact construct_agreed agreed args
  | act h taken a =>
      have left := leaves_agreed agreed (act_leaves a h.world)
      rw [Host.perform_eq, Host.accepts, if_pos agreed.living]
      exact left
  | take front => exact take_agreed agreed front
  | note h taken record => exact ⟨agreed.living, agreed.known, agreed.flag, agreed.agrees⟩
  | report h taken lines => exact ⟨agreed.living, agreed.known, agreed.flag, agreed.agrees⟩

theorem moment_agreed {accepts : Bool} {ids : Nat → String} {h : Play} {taken : List (Item Task)}
    (m : Moment accepts ids h taken) : Agreed h taken := by
  have steps : ∀ after, Later (Host.start (Stage.create accepts ids), []) after → Agreed after.1 after.2 := by
    intro after came
    induction came with
    | refl => exact start_agreed accepts ids
    | tail _ step ih => exact next_agreed step ih
  exact steps (h, taken) m

end SpokenIntent.ObjectScript
