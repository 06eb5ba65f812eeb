import SpokenIntent.Proofs.Session.Runs
import SpokenIntent.Proofs.Session.Teardown

/-!
What comes after a bridge is let go. Nothing more is heard, not even by a receiver that was kept: an event
posts nothing, whatever callbacks are set. What waited before still runs, each item in its turn, and each
delivery for the callback that it has kept; and nothing else of the bridge ever runs.
-/

namespace SpokenIntent

variable {ε κ : Type}

/-! ### A bridge over an engine of any kind -/

namespace Session

/-- One of the requests that a teardown makes panics. -/
def TeardownPanics [Engine ε] (engine : ε) : Prop :=
  let stopped := Engine.request .stop engine
  stopped.panic ≠ none ∨ stopped.panic = none ∧ (Engine.request .disconnect stopped.engine).panic ≠ none

theorem lastReaction_panics [Engine ε] (engine : ε) :
    TeardownPanics engine ↔ (lastReaction engine).panic ≠ none := by
  simp only [TeardownPanics, lastReaction]
  cases stopped : (Engine.request .stop engine).panic with
  | none => simp
  | some p => simp [stopped]

theorem teardown_leave [Engine ε] (s : Session ε κ) :
    (teardown : Act ε κ Unit).leave s =
      ⟨⟨(lastReaction s.engine).engine, { s.bridge with detached := true }⟩, [],
        (lastReaction s.engine).panic.toList.map fun _ => .teardownFailed⟩ := by
  rw [Work.leave, teardown_run]

/-- The one line of a teardown is there exactly if a request has panicked. -/
theorem teardown_log [Engine ε] (s : Session ε κ) (log : List LogEntry) :
    let left := (teardown : Act ε κ Unit).leave s
    (log ++ left.log = log ++ [.teardownFailed] ↔ TeardownPanics s.engine) ∧
    (log ++ left.log = log ↔ ¬ TeardownPanics s.engine) := by
  rw [teardown_leave, lastReaction_panics]
  cases (lastReaction s.engine).panic <;> simp

theorem fire_gone (event : EngineEvent) (e : Effects (Session ε κ) (BridgeTask κ))
    (gone : e.world.bridge.detached = true) : fire event e = .ok () e := by
  simp [fire, Work.bind_apply, Bridge.receive, gone]

/-- Whatever an engine fires of itself, or panics. -/
theorem react_gone (f : ε → Reaction ε) (s : Session ε κ) (gone : s.bridge.detached = true) :
    (react f : Act ε κ Unit).leave s = ⟨⟨(f s.engine).engine, s.bridge⟩, [], []⟩ := by
  have deaf : s.bridge.receive = fun _ => [] := by
    funext event
    simp [Bridge.receive, gone]
  simp [react_leave, deaf]

end Session

namespace BridgeScript

/-! ### What runs -/

/-- Whether the happening is an item that has run. -/
def Happening.isTurn : Happening κ → Bool
  | .told _ => true
  | .called _ _ => true
  | .acted _ _ _ => false

/-- The items that have run, as they went down in the history. -/
def ran (history : List (Happening κ)) : List (Happening κ) := history.filter Happening.isTurn

/-- What an item goes down as: a delivery, with the callback that it has kept. -/
def BridgeTask.happening : BridgeTask κ → Happening κ
  | .tell running => .told running
  | .deliver relay payload => .called relay.callback payload

def waiting (h : Play κ) : List (Happening κ) :=
  h.queue.toList.map fun item => BridgeTask.happening item.task

theorem ran_append (history more : List (Happening κ)) : ran (history ++ more) = ran history ++ ran more := by
  simp [ran]

/-! ### Acts on a bridge that is gone -/

theorem run_gone (a : Act κ) (s : Stage κ) (gone : s.session.bridge.detached = true) :
    ∃ reply, a.run ⟨s, [], []⟩ = .ok reply ⟨s, [], []⟩ := by
  cases a with
  | fire event kept =>
      have unheard := Session.fire_gone event ⟨s.session, [], []⟩ gone
      simp only [Act.run, Work.bind_apply, Work.read_apply]
      by_cases reached : (kept || s.session.engine.connected) = true
      · simp only [reached, ↓reduceIte, Work.bind_apply, onSession, Work.within, unheard]
        exact ⟨.flag true, rfl⟩
      · simp only [reached, Bool.false_eq_true, ↓reduceIte]
        exact ⟨.flag false, rfl⟩
  | requests => exact ⟨_, rfl⟩
  | isConnected => exact ⟨_, rfl⟩
  | _ =>
      simp only [Act.run, withBridge, Work.bind_apply, Work.read_apply, gone, ↓reduceIte]
      exact ⟨_, rfl⟩

/-- What is done with a bridge that is gone goes down in the history, and that is all. -/
theorem perform_gone (inside : Bool) (a : Act κ) (h : Play κ) (gone : h.world.session.bridge.detached = true) :
    ∃ reply, h.perform (a.perform inside) =
      (.ok reply, { h with world := h.world.note (.acted inside a reply) }) := by
  obtain ⟨reply, still⟩ := run_gone a h.world gone
  refine ⟨reply, ?_⟩
  obtain ⟨world, queue, seq, log, alive⟩ := h
  simp only [Host.perform, Act.perform, Work.bind_apply, still]
  cases alive <;> simp [Host.absorb, Fifo.append]

theorem runActs_gone (acts : List (Act κ)) (h : Play κ) (gone : h.world.session.bridge.detached = true) :
    let after := (h.perform (runActs acts)).2
    after.queue = h.queue ∧ after.world.session.bridge.detached = true := by
  induction acts generalizing h with
  | nil =>
      rw [runActs, Host.perform_pure]
      exact ⟨rfl, gone⟩
  | cons act rest ih =>
      obtain ⟨reply, noted⟩ := perform_gone true act h gone
      rw [runActs, Host.perform_bind h _ _ fun _ => runActs_framed rest, noted]
      exact ih _ gone

/-- An item that runs takes no other with it, and adds none. -/
theorem execute_gone (behave : κ → Payload → Script κ) (item : Item (BridgeTask κ)) (h : Play κ)
    (gone : h.world.session.bridge.detached = true) :
    let after := Host.execute (runTask behave) h item
    after.queue = h.queue ∧ after.world.session.bridge.detached = true := by
  obtain ⟨origin, task⟩ := item
  cases task with
  | tell running =>
      simp only [Host.execute, runTask, Session.runTask, Host.perform_update]
      exact ⟨trivial, gone⟩
  | deliver relay payload =>
      obtain ⟨panic, ran⟩ := Session.deliver_perform (fun running => Work.update (Stage.tell running))
        (invoke behave) ⟨origin, h.seq⟩ relay payload { h with seq := h.seq + 1 }
      simp only [Host.execute, runTask, ran, invoke_perform]
      exact runActs_gone _ _ gone

/-! ### From the drop on -/

/-- The bridge is gone, its callbacks are those it had when it was let go, and the items that have run and
those that wait are the same together as then. -/
structure Silenced (dropped h : Play κ) : Prop where
  gone : h.world.session.bridge.detached = true
  slots : h.world.session.bridge.slots = dropped.world.session.bridge.slots
  turns : ran h.world.history ++ waiting h = ran dropped.world.history ++ waiting dropped

/-- An item that is taken: it goes from those that wait to those that have run. -/
theorem taken_silenced {dropped h : Play κ} (silenced : Silenced dropped h) {item : Item (BridgeTask κ)}
    {rest : Fifo (Item (BridgeTask κ))} (front : h.queue.pop? = some (item, rest)) {next : Play κ}
    (bridge : next.world.session.bridge.detached = true ∧
      next.world.session.bridge.slots = h.world.session.bridge.slots)
    (queue : next.queue = rest)
    (history : next.world.history = h.world.history ++ [BridgeTask.happening item.task]) :
    Silenced dropped next := by
  have turn : ran [BridgeTask.happening item.task] = [BridgeTask.happening item.task] := by
    cases item.task <;> rfl
  constructor
  · exact bridge.1
  · rw [bridge.2, silenced.slots]
  · rw [← silenced.turns, history, ran_append, turn, waiting, waiting, queue, Fifo.toList_of_pop? front]
    simp

theorem next_silenced {nests : Bool} {dropped : Play κ} {now after : Play κ × List (Invocation κ)}
    (step : Next nests now after) (silenced : Silenced dropped now.1) : Silenced dropped after.1 := by
  cases step with
  | act h under inside a =>
      obtain ⟨reply, noted⟩ := perform_gone inside a h silenced.gone
      rw [noted]
      refine ⟨silenced.gone, silenced.slots, ?_⟩
      rw [← silenced.turns]
      simp [Stage.note, ran, Happening.isTurn, waiting]
  | tell free front => exact taken_silenced silenced front ⟨silenced.gone, rfl⟩ rfl rfl
  | call free front => exact taken_silenced silenced front ⟨silenced.gone, rfl⟩ rfl rfl
  | finish h under invocation panic => exact ⟨silenced.gone, silenced.slots, silenced.turns⟩

theorem later_silenced {nests : Bool} {dropped : Play κ} {now after : Play κ × List (Invocation κ)}
    (steps : Later nests now after) (silenced : Silenced dropped now.1) : Silenced dropped after.1 := by
  induction steps with
  | refl => exact silenced
  | tail _ step ih => exact next_silenced step ih

/-- A drain that may run as many items as wait runs them all, and no other. -/
theorem drain_gone (behave : κ → Payload → Script κ) (limit : Nat) (h : Play κ)
    (gone : h.world.session.bridge.detached = true) (enough : h.pending ≤ limit) :
    let drained := h.runPending (runTask behave) limit
    drained.1 = h.pending ∧ drained.2.queue.toList = [] := by
  have step : ∀ h next : Play κ, h.world.session.bridge.detached = true →
      h.step? (runTask behave) = some next →
      next.world.session.bridge.detached = true ∧ next.pending + 1 = h.pending := by
    intro h next gone stepped
    obtain ⟨item, rest, front, rfl⟩ := Host.step?_eq_some stepped
    obtain ⟨queue, still⟩ := execute_gone behave item { h with queue := rest } gone
    exact ⟨still, by simp only [Host.pending_eq, queue, front, List.length_cons]⟩
  exact Host.runPending_all step gone enough

/-- From the drop on, whatever comes: no event is heard, the callbacks stay, and what waited runs in its order
and nothing else does. -/
theorem dropped_silenced {h : Play κ} (inside : Bool) (here : h.world.session.bridge.detached = false) :
    let dropped := (h.perform (Act.letGo.perform inside)).2
    Silenced dropped dropped ∧
    dropped.world.session.bridge.slots = h.world.session.bridge.slots ∧
    ran dropped.world.history = ran h.world.history ∧ waiting dropped = waiting h := by
  rw [letGo_perform h inside here, Session.teardown_leave]
  refine ⟨⟨rfl, rfl, rfl⟩, rfl, ?_, rfl⟩
  simp [ran, Happening.isTurn]

theorem fire_unheard (event : EngineEvent) (inside kept : Bool) (h : Play κ)
    (gone : h.world.session.bridge.detached = true) :
    let after := (h.perform ((Act.fire event kept).perform inside)).2
    after.queue = h.queue ∧ after.world.session = h.world.session := by
  obtain ⟨reply, noted⟩ := perform_gone inside (.fire event kept) h gone
  rw [noted]
  exact ⟨rfl, rfl⟩

/-- A drain at any time after the drop, as far as it need go. -/
theorem drained_silenced {dropped h : Play κ} (silenced : Silenced dropped h) (behave : κ → Payload → Script κ)
    (limit : Nat) (enough : h.pending ≤ limit) :
    let drained := h.runPending (runTask behave) limit
    drained.1 = h.pending ∧ drained.2.pending = 0 ∧
    ran drained.2.world.history = ran dropped.world.history ++ waiting dropped := by
  obtain ⟨count, empty⟩ := drain_gone behave limit h silenced.gone enough
  have steps : Later false (h, []) ((h.runPending (runTask behave) limit).2, []) :=
    drain_later behave (.runPending limit) h
  have turns := (later_silenced steps silenced).turns
  rw [waiting, empty, List.map_nil, List.append_nil] at turns
  refine ⟨count, ?_, turns⟩
  rw [Host.pending, ← Fifo.length_toList, empty, List.length_nil]

/-- Of every engine, in every state: to let a bridge go panics never, and is logged exactly if one of the
requests that are made panics; from then on an event changes nothing at all, and no reaction of the engine gets
any further than the engine. On every host, whatever it runs: what waited at the drop is run first, in its
order.
At every moment, in the middle of a callback too, and whatever comes after: no event of any kind, by way of any
receiver, changes the queue or the bridge; the callbacks are those of the drop; what has run and what waits is
together what had run and what waited; and a drain that goes on for long enough runs just what waits. -/
theorem teardown_silences [Engine ε] {σ : Type} :
    (∀ s : Session ε κ,
      let work : Session.Act ε κ Unit := Session.teardown
      let left := work.leave s
      work.panic? s = none ∧ left.posted = [] ∧ left.world.bridge = { s.bridge with detached := true } ∧
      (left.log = [.teardownFailed] ↔ Session.TeardownPanics s.engine) ∧
      (left.log = [] ↔ ¬ Session.TeardownPanics s.engine)) ∧
    (∀ e : Effects (Session ε κ) (BridgeTask κ), e.world.bridge.detached = true →
      (∀ event, Session.fire event e = .ok () e) ∧
      (∀ f : ε → Reaction ε, (Session.react f : Session.Act ε κ Unit).leave e.world =
        ⟨⟨(f e.world.engine).engine, e.world.bridge⟩, [], []⟩)) ∧
    (∀ (part : σ → Session ε κ) (setPart : Session ε κ → σ → σ) (tell : Bool → Work σ (BridgeTask κ) Unit)
      (invoke : κ → Payload → Work σ (BridgeTask κ) Unit) (h : Host σ (BridgeTask κ))
      (moves : List (Move σ (BridgeTask κ))),
      let dropped := h.perform (Work.within part setPart id Session.teardown)
      let later : Chronicle σ (BridgeTask κ) := Chronicle.after (Session.runTask tell invoke) moves ⟨dropped.2, [], []⟩
      dropped.1 = .ok () ∧
      (later.host.alive = true →
        later.turns.map Turn.item ++ later.host.queue.toList = h.queue.toList ++ later.posted)) ∧
    (∀ (nests : Bool) (h : Play κ) (under : List (Invocation κ)), Moment nests h under →
      h.world.session.bridge.detached = false → ∀ inside,
      let dropped := h.perform (Act.letGo.perform inside)
      dropped.1 = .ok (.flag true) ∧
      (dropped.2.log = h.log ++ [.teardownFailed] ↔ Session.TeardownPanics h.world.session.engine) ∧
      (dropped.2.log = h.log ↔ ¬ Session.TeardownPanics h.world.session.engine) ∧
      ∀ (later : Play κ) (under' : List (Invocation κ)), Later nests (dropped.2, under) (later, under') →
        (∀ event inside kept,
          let after := (later.perform ((Act.fire event kept).perform inside)).2
          after.queue = later.queue ∧ after.world.session = later.world.session) ∧
        later.world.session.bridge.slots = h.world.session.bridge.slots ∧
        ran later.world.history ++ waiting later = ran h.world.history ++ waiting h ∧
        ∀ (behave : κ → Payload → Script κ) (limit : Nat), later.pending ≤ limit →
          let drained := later.runPending (runTask behave) limit
          drained.1 = later.pending ∧ drained.2.pending = 0 ∧
          ran drained.2.world.history = ran h.world.history ++ waiting h) ∧
    (∀ (nests : Bool) (behave : κ → Payload → Script κ) (deeds : List (Deed κ)) (h : Play κ),
      let after := h.after (runTask behave) (deeds.map Deed.move)
      Later nests (h, []) (after, []) ∧ (Moment nests h [] → Moment nests after [])) := by
  refine ⟨?_, ?_, ?_, ?_, ?_⟩
  · intro s work left
    obtain ⟨warned, silent⟩ := Session.teardown_log s []
    refine ⟨?_, ?_, ?_, warned, silent⟩
    · simp only [work, Work.panic?, Session.teardown_run]
    · simp only [left, work, Session.teardown_leave]
    · simp only [left, work, Session.teardown_leave]
  · intro e gone
    constructor
    · intro event
      exact Session.fire_gone event e gone
    · intro f
      exact Session.react_gone f e.world gone
  · intro part setPart tell invoke h moves dropped later
    constructor
    · simp only [dropped, Host.perform, Work.within, Session.teardown_run]
    · apply Chronicle.after_conserved
      intro living
      simp [dropped, Host.perform_eq, Work.within_leave, Session.teardown_leave, Host.accepts]
  · intro nests h under m here inside dropped
    obtain ⟨warned, silent⟩ := Session.teardown_log h.world.session h.log
    obtain ⟨begins, slots, history, waits⟩ := dropped_silenced inside here
    have performed := letGo_perform h inside here
    refine ⟨?_, ?_, ?_, ?_⟩
    · simp only [dropped, performed]
    · simpa only [dropped, performed] using warned
    · simpa only [dropped, performed] using silent
    · intro later under' steps
      have silenced := later_silenced steps begins
      refine ⟨?_, ?_, ?_, ?_⟩
      · intro event inside kept
        exact fire_unheard event inside kept later silenced.gone
      · rw [silenced.slots, slots]
      · rw [silenced.turns, history, waits]
      · intro behave limit enough
        rw [← history, ← waits]
        exact drained_silenced silenced behave limit enough
  · intro nests behave deeds h after
    exact ⟨after_later behave deeds h, after_moment behave deeds⟩

/-- An engine that panics at being disconnected, and at nothing else. -/
def reluctant : Request → Option Panic := fun r => if r = .disconnect then some (.text "no") else none

/-- A session has begun and is over, with a hypothesis in between; the host has been told that it began. -/
def begun : Play Nat :=
  (opening reluctant).after (runTask replacing)
    ([.act (.on .started 1), .act (.on .recognized 2), .act (.fire (.started "s") false),
      .act (.fire (.recognized (.textOnly "a")) false), .act (.on .recognized 3),
      .act (.fire (.stopped "s") false), .drain (.runFor 1)].map Deed.move)

/-- Its first callback is being called. -/
def interrupted : Play Nat :=
  calling begun
    ⟨[⟨"recognized", .deliver ⟨"recognized", 2⟩ (EngineEvent.recognized (.textOnly "a")).payload⟩,
      ⟨"stopped", .tell false⟩], []⟩
    ⟨"started", 1⟩ (.session ⟨"s"⟩)

theorem interrupted_moment : Moment false interrupted [⟨⟨"started", 1⟩, .session ⟨"s"⟩, begun.seq⟩] := by
  apply Moment.call
  · exact after_moment replacing _ (.opened (opening_opened rfl rfl))
  · exact .inl rfl
  · rfl

/-- The callback lets the bridge go and fires an event through a receiver that was kept. The hypothesis is still
delivered to the callback of its time, and the host is still told of the end. -/
theorem drop_within_callback_silences :
    let dropped := (interrupted.perform (Act.letGo.perform true)).2
    let late := (dropped.perform ((Act.fire (.canceled ⟨"s", .error, none, "lost"⟩) true).perform true)).2
    let drained := late.runPending (runTask replacing) 9
    dropped.log = [.teardownFailed] ∧
    late.queue = dropped.queue ∧ late.world.session = dropped.world.session ∧
    drained.1 = 2 ∧ drained.2.pending = 0 ∧
    ran drained.2.world.history = ran interrupted.world.history ++ waiting interrupted ∧
    (called drained.2.world.history).map Prod.fst = [1, 2] ∧
    told drained.2.world.history = [true, false] := by
  intro dropped late drained
  obtain ⟨-, -, -, silences, -⟩ :=
    teardown_silences (ε := Recorder) (κ := Nat) (σ := Session Recorder Nat)
  have here : interrupted.world.session.bridge.detached = false := rfl
  have unlogged : interrupted.log = [] := rfl
  have panics : Session.TeardownPanics interrupted.world.session.engine := by
    right
    constructor
    · rfl
    · decide +kernel
  obtain ⟨-, warned, -, after⟩ := silences false interrupted _ interrupted_moment here true
  obtain ⟨unheard, -, -, -⟩ := after dropped _ .refl
  obtain ⟨queue, session⟩ := unheard (.canceled ⟨"s", .error, none, "lost"⟩) true true
  obtain ⟨-, -, -, drains⟩ := after late _ (.single (.act dropped _ true _))
  have two : late.pending = 2 := by decide +kernel
  obtain ⟨count, empty, turns⟩ := drains replacing 9 (by rw [two]; decide)
  rw [unlogged] at warned
  exact ⟨warned.mpr panics, queue, session, count.trans two, empty, turns, by decide +kernel, by decide +kernel⟩

end BridgeScript

end SpokenIntent
