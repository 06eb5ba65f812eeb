import SpokenIntent.Proofs.Host.Effects
import SpokenIntent.Proofs.Session.Ledger

/-!
What acts do to a bridge and to the queue, as the ledger has it. An act that touches neither is quiet;
of the others, one sets a callback, one has the bridge hear an event, and one lets the bridge go.
-/

namespace SpokenIntent.BridgeScript

variable {κ : Type}

/-- The bridge is set up as the ledger says. -/
structure Mirrors (l : Ledger κ) (b : Bridge κ) : Prop where
  gone : b.detached = l.gone
  slots : ∀ channel, b.slots channel =
    ⟨channel.name, (l.callbacks channel).map fun callback => ⟨channel.name, callback⟩⟩

theorem create_mirrors : Mirrors (Ledger.blank : Ledger κ) Bridge.create := ⟨rfl, fun _ => rfl⟩

theorem set_mirrors (l : Ledger κ) (b : Bridge κ) (channel : Channel) (callback : κ) (here : l.gone = false)
    (mirrors : Mirrors l b) : Mirrors (l.set channel callback) (b.on channel callback) := by
  refine ⟨?_, fun other => ?_⟩
  · simpa [Ledger.set, here, Bridge.on] using mirrors.gone
  · by_cases same : other = channel
    · subst same
      simp [Ledger.set, here, Bridge.on, Slots.set, Slot.set, mirrors.slots other]
    · simp [Ledger.set, here, Bridge.on, Slots.set, same, mirrors.slots other]

theorem hear_mirrors (l : Ledger κ) (b : Bridge κ) (event : EngineEvent) (mirrors : Mirrors l b) :
    Mirrors (l.hear event) b := by
  cases here : l.gone with
  | true => simpa [Ledger.hear, here] using mirrors
  | false =>
      refine ⟨?_, ?_⟩
      · simpa [Ledger.hear, here] using mirrors.gone
      · simpa [Ledger.hear, here] using mirrors.slots

/-- What an event posts is what the ledger adds for it. -/
theorem receive_entered (l : Ledger κ) (b : Bridge κ) (event : EngineEvent) (mirrors : Mirrors l b) :
    (l.hear event).due = l.due ++ deliveries (b.receive event) ∧
    (l.hear event).announced = l.announced ++ tellings (b.receive event) := by
  cases here : l.gone with
  | true => simp [Ledger.hear, Bridge.receive, mirrors.gone, here, deliveries, tellings]
  | false =>
      simp only [Ledger.hear, Ledger.announced, Bridge.receive, mirrors.gone, here, Bridge.tellings,
        Bridge.deliveries, mirrors.slots, Bool.false_eq_true, ↓reduceIte]
      cases l.callbacks event.channel <;> cases tells : event.sessionRuns? <;>
        simp [deliveries, tellings, BridgeTask.delivery?, BridgeTask.telling?, tells]

/-- The telling of an event comes right before its delivery; so whatever the flag is by then, the delivery
finds it as the event says. -/
theorem receive_faithful (l : Ledger κ) (b : Bridge κ) (event : EngineEvent) (mirrors : Mirrors l b)
    (flag : Bool) : Faithful (l.hear event).heard flag (b.receive event) := by
  cases here : l.gone with
  | true => simp [Bridge.receive, mirrors.gone, here, Faithful]
  | false =>
      have heard : event ∈ (l.hear event).heard := by simp [Ledger.hear, here]
      simp only [Bridge.receive, mirrors.gone, here, Bridge.tellings, Bridge.deliveries, mirrors.slots,
        Bool.false_eq_true, ↓reduceIte]
      cases l.callbacks event.channel with
      | none => cases event.sessionRuns? <;> simp [Faithful]
      | some callback =>
          cases tells : event.sessionRuns? with
          | none => exact ⟨⟨event, heard, rfl, rfl, by simp [tells]⟩, trivial⟩
          | some told => exact ⟨⟨event, heard, rfl, rfl, by simp [tells]⟩, trivial⟩

/-- What an act leaves, as the ledger has it: `noted` is what it adds to the history. -/
structure Entered (l : Ledger κ) (s : Stage κ) (left : Effects (Stage κ) (BridgeTask κ))
    (noted : List (Happening κ)) : Prop where
  history : left.world.history = s.history ++ noted
  running : left.world.session.bridge.running = s.session.bridge.running
  silent : called noted = [] ∧ told noted = []
  mirrors : Mirrors (noted.foldl Ledger.enter l) left.world.session.bridge
  due : (noted.foldl Ledger.enter l).due = l.due ++ deliveries left.posted
  announced : (noted.foldl Ledger.enter l).announced = l.announced ++ tellings left.posted
  faithful : ∀ flag, Faithful (noted.foldl Ledger.enter l).heard flag left.posted

/-- The note that is made of an act. -/
def Act.noted (inside : Bool) (a : Act κ) (s : Stage κ) : List (Happening κ) :=
  match a.run ⟨s, [], []⟩ with
  | .ok reply _ => [.acted inside a reply]
  | .error _ _ => []

theorem perform_leave (inside : Bool) (a : Act κ) (s : Stage κ) :
    let left := a.run.leave s
    (a.perform inside).leave s =
      { left with world := { left.world with history := left.world.history ++ a.noted inside s } } := by
  simp only [Act.perform, Act.noted, Work.leave, Work.bind_apply]
  cases a.run ⟨s, [], []⟩ <;> simp [Stage.note]

/-- The act touches the engine at most. -/
def Quiet (a : Act κ) : Prop :=
  ∀ s : Stage κ, ∃ engine, a.run.leave s = ⟨s.setSession ⟨engine, s.session.bridge⟩, [], []⟩

/-- A request leaves the bridge alone, even if the engine panics at it. -/
theorem ask_run (r : Request) (e : Effects (Session Recorder κ) (BridgeTask κ)) :
    let engine := (Recorder.request r e.world.engine).engine
    Session.ask r e =
      match e.world.engine.refuses r with
      | none => .ok () { e with world := ⟨engine, e.world.bridge⟩ }
      | some p => .error p { e with world := ⟨engine, e.world.bridge⟩ } := by
  simp only [Session.ask, Session.react, Work.bind_apply, Work.read_apply, Work.update_apply,
    Engine.request, Recorder.request, Session.fireAll, Work.pure_apply]
  cases e.world.engine.refuses r <;> rfl

theorem request_leave (r : Request) (s : Stage κ) :
    ∃ engine, (withBridge (do Session.ask r; pure .nothing) : StageWork κ Reply).leave s =
      ⟨s.setSession ⟨engine, s.session.bridge⟩, [], []⟩ := by
  simp only [Work.leave, withBridge, Work.bind_apply, Work.read_apply]
  cases s.session.bridge.detached with
  | true => exact ⟨s.session.engine, rfl⟩
  | false =>
      refine ⟨(Recorder.request r s.session.engine).engine, ?_⟩
      simp only [Bool.false_eq_true, ↓reduceIte, onSession, Work.within, Work.bind_apply, ask_run]
      cases s.session.engine.refuses r <;> simp

theorem isRunning_quiet : Quiet (.isRunning : Act κ) := by
  intro s
  refine ⟨s.session.engine, ?_⟩
  simp only [Work.leave, Act.run, withBridge, Work.bind_apply, Work.read_apply]
  cases s.session.bridge.detached <;> rfl

theorem quiet_entered (l : Ledger κ) (s : Stage κ) (a : Act κ) (inside : Bool) (quiet : Quiet a)
    (nothing : ∀ reply, l.enter (.acted inside a reply) = l) (mirrors : Mirrors l s.session.bridge) :
    Entered l s ((a.perform inside).leave s) (a.noted inside s) := by
  obtain ⟨engine, left⟩ := quiet s
  -- an act that panics is not noted, so there may be no note at all
  have same : (a.noted inside s).foldl Ledger.enter l = l := by
    simp only [Act.noted]
    cases a.run ⟨s, [], []⟩ <;> simp [nothing]
  have silent : called (a.noted inside s) = [] ∧ told (a.noted inside s) = [] := by
    simp only [Act.noted]
    cases a.run ⟨s, [], []⟩ <;> simp [called, told, Happening.called?, Happening.told?]
  simp only [perform_leave, left]
  refine ⟨rfl, rfl, silent, ?_, ?_, ?_, fun _ => trivial⟩
  · rw [same]
    exact mirrors
  · simp [same, deliveries]
  · simp [same, tellings]

/-- An act that comes through is noted with its reply. -/
theorem reply_entered {l : Ledger κ} {s : Stage κ} {a : Act κ} {reply : Reply}
    {left : Effects (Stage κ) (BridgeTask κ)} (inside : Bool) (ran : a.run ⟨s, [], []⟩ = .ok reply left)
    (history : left.world.history = s.history)
    (running : left.world.session.bridge.running = s.session.bridge.running)
    (mirrors : Mirrors (l.enter (.acted inside a reply)) left.world.session.bridge)
    (due : (l.enter (.acted inside a reply)).due = l.due ++ deliveries left.posted)
    (announced : (l.enter (.acted inside a reply)).announced = l.announced ++ tellings left.posted)
    (faithful : ∀ flag, Faithful (l.enter (.acted inside a reply)).heard flag left.posted) :
    Entered l s ((a.perform inside).leave s) (a.noted inside s) := by
  have noted : a.noted inside s = [.acted inside a reply] := by simp only [Act.noted, ran]
  have leave : a.run.leave s = left := by simp only [Work.leave, ran]
  rw [perform_leave, leave, noted]
  exact ⟨by rw [history], running, ⟨rfl, rfl⟩, mirrors, due, announced, faithful⟩

/-- An act of which nothing is posted, and nothing heard. -/
theorem unheard_entered {l : Ledger κ} {s s' : Stage κ} {a : Act κ} {reply : Reply} {log : List LogEntry}
    (inside : Bool) (ran : a.run ⟨s, [], []⟩ = .ok reply ⟨s', [], log⟩) (history : s'.history = s.history)
    (running : s'.session.bridge.running = s.session.bridge.running)
    (mirrors : Mirrors (l.enter (.acted inside a reply)) s'.session.bridge)
    (due : (l.enter (.acted inside a reply)).due = l.due)
    (heard : (l.enter (.acted inside a reply)).heard = l.heard) :
    Entered l s ((a.perform inside).leave s) (a.noted inside s) := by
  refine reply_entered inside ran history running mirrors ?_ ?_ (fun _ => trivial)
  · simp [due, deliveries]
  · simp [Ledger.announced, heard, tellings]

theorem on_entered (l : Ledger κ) (s : Stage κ) (channel : Channel) (callback : κ) (inside : Bool)
    (mirrors : Mirrors l s.session.bridge) :
    Entered l s (((Act.on channel callback).perform inside).leave s)
      ((Act.on channel callback).noted inside s) := by
  have gone := mirrors.gone
  cases here : s.session.bridge.detached with
  | true =>
      have ran : (Act.on channel callback).run ⟨s, [], []⟩ = .ok .noBridge ⟨s, [], []⟩ := by
        simp [Act.run, withBridge, Work.bind_apply, here]
      have same : l.enter (.acted inside (.on channel callback) .noBridge) = l := by
        simp [Ledger.enter, Ledger.set, ← gone, here]
      exact unheard_entered inside ran rfl rfl (by rw [same]; exact mirrors) (by rw [same]) (by rw [same])
  | false =>
      have living : l.gone = false := by rw [← gone, here]
      have ran : (Act.on channel callback).run ⟨s, [], []⟩ =
          .ok .nothing ⟨s.setSession ⟨s.session.engine, s.session.bridge.on channel callback⟩, [], []⟩ := by
        simp only [Act.run, withBridge, Work.bind_apply, Work.read_apply, here, Bool.false_eq_true, ↓reduceIte]
        rfl
      refine unheard_entered inside ran rfl rfl (set_mirrors l _ channel callback living mirrors) ?_ ?_
      · simp [Ledger.enter, Ledger.set, living]
      · simp [Ledger.enter, Ledger.set, living]

theorem fire_entered (l : Ledger κ) (s : Stage κ) (event : EngineEvent) (kept inside : Bool)
    (mirrors : Mirrors l s.session.bridge) :
    Entered l s (((Act.fire event kept : Act κ).perform inside).leave s)
      ((Act.fire event kept).noted inside s) := by
  cases reached : kept || s.session.engine.connected with
  | true =>
      have ran : (Act.fire event kept).run ⟨s, [], []⟩ =
          .ok (.flag true) ⟨s, s.session.bridge.receive event, []⟩ := by
        simp only [Act.run, Work.bind_apply, Work.read_apply, reached, ↓reduceIte]
        simp [onSession, Work.within, Session.fire, Work.bind_apply, Stage.setSession]
      obtain ⟨due, announced⟩ := receive_entered l s.session.bridge event mirrors
      exact reply_entered inside ran rfl rfl (hear_mirrors l _ event mirrors) due announced
        (receive_faithful l _ event mirrors)
  | false =>
      have ran : (Act.fire event kept : Act κ).run ⟨s, [], []⟩ = .ok (.flag false) ⟨s, [], []⟩ := by
        simp only [Act.run, Work.bind_apply, Work.read_apply, reached, Bool.false_eq_true, ↓reduceIte]
        rfl
      exact unheard_entered inside ran rfl rfl mirrors rfl rfl

/-- Letting go detaches the bridge whether or not the engine panics at being stopped. -/
theorem letGo_run (s : Stage κ) (here : s.session.bridge.detached = false) :
    ∃ engine lines, (Act.letGo : Act κ).run ⟨s, [], []⟩ =
      .ok (.flag true) ⟨s.setSession ⟨engine, { s.session.bridge with detached := true }⟩, [], lines⟩ := by
  simp only [Act.run, Work.bind_apply, Work.read_apply, here, onSession, Work.within, Session.teardown,
    Bool.false_eq_true, ↓reduceIte, Work.update_apply, Work.attempt_apply, ask_run]
  cases s.session.engine.refuses .stop with
  | some p => exact ⟨_, _, rfl⟩
  | none =>
      -- only an engine that let itself be stopped is asked to disconnect
      simp only [Recorder.request]
      cases s.session.engine.refuses .disconnect <;> exact ⟨_, _, rfl⟩

theorem letGo_entered (l : Ledger κ) (s : Stage κ) (inside : Bool) (mirrors : Mirrors l s.session.bridge) :
    Entered l s (((Act.letGo : Act κ).perform inside).leave s) ((Act.letGo).noted inside s) := by
  cases here : s.session.bridge.detached with
  | true =>
      have ran : (Act.letGo : Act κ).run ⟨s, [], []⟩ = .ok (.flag false) ⟨s, [], []⟩ := by
        simp [Act.run, Work.bind_apply, here]
      -- the ledger notes that the bridge is gone, which it was already
      exact unheard_entered inside ran rfl rfl ⟨here, mirrors.slots⟩ rfl rfl
  | false =>
      obtain ⟨engine, lines, ran⟩ := letGo_run s here
      exact unheard_entered inside ran rfl rfl ⟨rfl, mirrors.slots⟩ rfl rfl

theorem act_entered (l : Ledger κ) (s : Stage κ) (a : Act κ) (inside : Bool)
    (mirrors : Mirrors l s.session.bridge) :
    Entered l s ((a.perform inside).leave s) (a.noted inside s) := by
  cases a with
  | on channel callback => exact on_entered l s channel callback inside mirrors
  | fire event kept => exact fire_entered l s event kept inside mirrors
  | letGo => exact letGo_entered l s inside mirrors
  -- the others are quiet, four of them since all they do is ask the engine
  | start => exact quiet_entered l s _ inside (request_leave .start) (fun _ => rfl) mirrors
  | stop => exact quiet_entered l s _ inside (request_leave .stop) (fun _ => rfl) mirrors
  | addIntent phrase intentId =>
      exact quiet_entered l s _ inside (request_leave (.addIntent phrase intentId)) (fun _ => rfl) mirrors
  | addPhrase phrase =>
      exact quiet_entered l s _ inside (request_leave (.addPhrase phrase)) (fun _ => rfl) mirrors
  | isRunning => exact quiet_entered l s _ inside isRunning_quiet (fun _ => rfl) mirrors
  | requests => exact quiet_entered l s _ inside (fun s => ⟨s.session.engine, rfl⟩) (fun _ => rfl) mirrors
  | isConnected => exact quiet_entered l s _ inside (fun s => ⟨s.session.engine, rfl⟩) (fun _ => rfl) mirrors

/-! ### Acts go by the stage alone -/

theorem withBridge_framed (act : Session.Act Recorder κ Reply) : Work.Framed (withBridge act) := by
  refine Work.framed_bind Work.framed_read fun s => ?_
  split
  · exact Work.framed_pure _
  · exact Work.framed_within _ _ _ _

theorem run_framed (a : Act κ) : Work.Framed a.run := by
  cases a with
  | fire event kept =>
      refine Work.framed_bind Work.framed_read fun s => ?_
      split
      · exact Work.framed_bind (Work.framed_within _ _ _ _) fun _ => Work.framed_pure _
      · exact Work.framed_pure _
  | letGo =>
      refine Work.framed_bind Work.framed_read fun s => ?_
      split
      · exact Work.framed_pure _
      · exact Work.framed_bind (Work.framed_within _ _ _ _) fun _ => Work.framed_pure _
  | requests => exact Work.framed_bind Work.framed_read fun _ => Work.framed_pure _
  | isConnected => exact Work.framed_bind Work.framed_read fun _ => Work.framed_pure _
  | _ => exact withBridge_framed _

theorem perform_framed (inside : Bool) (a : Act κ) : Work.Framed (a.perform inside) :=
  Work.framed_bind (run_framed a) fun _ =>
    Work.framed_bind (Work.framed_update _) fun _ => Work.framed_pure _

theorem runActs_framed (acts : List (Act κ)) : Work.Framed (runActs acts) := by
  induction acts with
  | nil => exact Work.framed_pure ()
  | cons act rest ih => exact Work.framed_bind (perform_framed true act) fun _ => ih

end SpokenIntent.BridgeScript
