import Mathlib.Logic.Relation
import SpokenIntent.Proofs.Host.Chronicle
import SpokenIntent.Proofs.Session.Acts
import SpokenIntent.Proofs.Session.Requests

/-!
Every moment that a run of a bridge comes to, those in the middle of a callback included. Between any
two things that happen anyone may act, from outside, as another thread does, or from inside a callback;
so nothing is assumed of what callbacks do, nor of where they panic.

What all moments have in common is that the bridge and the queue together are what the ledger says.
-/

namespace SpokenIntent.BridgeScript

variable {κ : Type}

/-- A callback that is being run, for the item of some number. -/
structure Invocation (κ : Type) where
  relay : Relay κ
  payload : Payload
  seq : UInt64

/-- The play as a callback is called, for the item that has waited longest. -/
def calling (h : Play κ) (rest : Fifo (Item (BridgeTask κ))) (relay : Relay κ) (payload : Payload) : Play κ :=
  { h with
    queue := rest
    seq := h.seq + 1
    world := h.world.note (.called relay.callback payload) }

/-- The play at some moment, and the callbacks that run then, the innermost first. When it `nests`, items
may be taken from the queue while a callback runs, as by a callback that drains the queue itself. -/
inductive Moment (nests : Bool) : Play κ → List (Invocation κ) → Prop where
  | opened {factory : EngineFactory Recorder} {credentials : Credentials} {h : Play κ}
      (made : open? factory credentials = .ok h) : Moment nests h []
  | act {h : Play κ} {under : List (Invocation κ)} (m : Moment nests h under) (inside : Bool) (a : Act κ) :
      Moment nests (h.perform (a.perform inside)).2 under
  | tell {h : Play κ} {under : List (Invocation κ)} {origin : String} {running : Bool}
      {rest : Fifo (Item (BridgeTask κ))} (m : Moment nests h under) (free : under = [] ∨ nests = true)
      (front : h.queue.pop? = some (⟨origin, .tell running⟩, rest)) :
      Moment nests { h with queue := rest, seq := h.seq + 1, world := h.world.tell running } under
  | call {h : Play κ} {under : List (Invocation κ)} {origin : String} {relay : Relay κ} {payload : Payload}
      {rest : Fifo (Item (BridgeTask κ))} (m : Moment nests h under) (free : under = [] ∨ nests = true)
      (front : h.queue.pop? = some (⟨origin, .deliver relay payload⟩, rest)) :
      Moment nests (calling h rest relay payload) (⟨relay, payload, h.seq⟩ :: under)
  | finish {h : Play κ} {under : List (Invocation κ)} {invocation : Invocation κ}
      (m : Moment nests h (invocation :: under)) (panic : Option Panic) :
      Moment nests
        { h with
          log := h.log ++ panic.toList.map (.callbackPanicked invocation.relay.name invocation.seq) }
        under

/-! ### From one moment to the next -/

/-- One thing more that happens. What there is of it depends on the play alone, not on how the play came to
where it is. -/
inductive Next (nests : Bool) : Play κ × List (Invocation κ) → Play κ × List (Invocation κ) → Prop where
  | act (h : Play κ) (under : List (Invocation κ)) (inside : Bool) (a : Act κ) :
      Next nests (h, under) ((h.perform (a.perform inside)).2, under)
  | tell {h : Play κ} {under : List (Invocation κ)} {origin : String} {running : Bool}
      {rest : Fifo (Item (BridgeTask κ))} (free : under = [] ∨ nests = true)
      (front : h.queue.pop? = some (⟨origin, .tell running⟩, rest)) :
      Next nests (h, under) ({ h with queue := rest, seq := h.seq + 1, world := h.world.tell running }, under)
  | call {h : Play κ} {under : List (Invocation κ)} {origin : String} {relay : Relay κ} {payload : Payload}
      {rest : Fifo (Item (BridgeTask κ))} (free : under = [] ∨ nests = true)
      (front : h.queue.pop? = some (⟨origin, .deliver relay payload⟩, rest)) :
      Next nests (h, under) (calling h rest relay payload, ⟨relay, payload, h.seq⟩ :: under)
  | finish (h : Play κ) (under : List (Invocation κ)) (invocation : Invocation κ) (panic : Option Panic) :
      Next nests (h, invocation :: under)
        ({ h with
            log := h.log ++ panic.toList.map (.callbackPanicked invocation.relay.name invocation.seq) },
          under)

/-- Any number of things that happen, one after the other. -/
abbrev Later (nests : Bool) : Play κ × List (Invocation κ) → Play κ × List (Invocation κ) → Prop :=
  Relation.ReflTransGen (Next nests)

theorem Moment.next {nests : Bool} {now after : Play κ × List (Invocation κ)} (m : Moment nests now.1 now.2)
    (step : Next nests now after) : Moment nests after.1 after.2 := by
  cases step with
  | act h under inside a => exact m.act inside a
  | tell free front => exact m.tell free front
  | call free front => exact m.call free front
  | finish h under invocation panic => exact m.finish panic

theorem Moment.later {nests : Bool} {now after : Play κ × List (Invocation κ)} (m : Moment nests now.1 now.2)
    (steps : Later nests now after) : Moment nests after.1 after.2 := by
  induction steps with
  | refl => exact m
  | tail _ step ih => exact ih.next step

/-! ### What all moments have in common -/

/-- What has been called and told, then what waits, is what the ledger says; and the flag is what was told
last. -/
structure Balanced (h : Play κ) : Prop where
  living : h.alive = true
  mirrors : Mirrors (Ledger.of h.world.history) h.world.session.bridge
  due : called h.world.history ++ deliveries h.queue.toList = (Ledger.of h.world.history).due
  announced : told h.world.history ++ tellings h.queue.toList = (Ledger.of h.world.history).announced
  running : h.world.session.bridge.running = (told h.world.history).getLastD false
  faithful : Faithful (Ledger.of h.world.history).heard h.world.session.bridge.running h.queue.toList

/-- A recorder fires nothing of itself, so a play begins with nothing but a bridge that is connected. -/
theorem open_eq_start {factory : EngineFactory Recorder} {credentials : Credentials} {h : Play κ}
    (made : open? factory credentials = .ok h) :
    ∃ engine : Recorder, engine.connected = true ∧ h = Host.start ⟨⟨engine, Bridge.create⟩, []⟩ := by
  obtain ⟨engine, -, calm, rfl⟩ := Session.openOn_eq_ok.mp made
  refine ⟨(Session.firstReaction engine).engine, ?_, ?_⟩
  · simp only [Session.firstReaction, Session.unheard, Engine.request, Recorder.request] at calm ⊢
    cases refused : engine.refuses .grammar with
    | some p => simp [refused] at calm
    | none => rfl
  · have silent : (Session.firstReaction engine).fired = [] := by
      simp only [Session.firstReaction, Session.unheard, Engine.request, Recorder.request]
      cases engine.refuses .grammar <;> rfl
    rw [silent]
    rfl

theorem open_balanced {factory : EngineFactory Recorder} {credentials : Credentials} {h : Play κ}
    (made : open? factory credentials = .ok h) : Balanced h := by
  obtain ⟨engine, -, rfl⟩ := open_eq_start made
  exact ⟨rfl, create_mirrors, rfl, rfl, rfl, trivial⟩

/-- An act adds to both sides alike. It does not touch the flag, and forgets no event. -/
theorem act_balanced (h : Play κ) (inside : Bool) (a : Act κ) (holds : Balanced h) :
    let after := (h.perform (a.perform inside)).2
    Balanced after ∧
    after.world.session.bridge.running = h.world.session.bridge.running ∧
    (Ledger.of h.world.history).heard ⊆ (Ledger.of after.world.history).heard := by
  intro after
  have entered := act_entered _ h.world a inside holds.mirrors
  obtain ⟨noCalls, noTellings⟩ := entered.silent
  have eq : after = _ := Host.perform_eq h (a.perform inside)
  have history : after.world.history = h.world.history ++ a.noted inside h.world := by
    rw [eq]; exact entered.history
  have queue : after.queue.toList = h.queue.toList ++ ((a.perform inside).leave h.world).posted := by
    rw [eq]; simp [Host.accepts, holds.living]
  have running : after.world.session.bridge.running = h.world.session.bridge.running := by
    rw [eq]; exact entered.running
  have grows : (Ledger.of h.world.history).heard ⊆ (Ledger.of after.world.history).heard := by
    rw [history, Ledger.of_append]
    exact Ledger.heard_grows _ _
  -- both sides of each equation grow at their end, by what the act has posted
  refine ⟨⟨?_, ?_, ?_, ?_, ?_, ?_⟩, running, grows⟩
  · rw [eq]; exact holds.living
  · rw [history, Ledger.of_append, eq]
    exact entered.mirrors
  · rw [queue, history, Ledger.of_append, entered.due, called_append, deliveries_append, noCalls,
      List.append_nil, ← List.append_assoc, holds.due]
  · rw [queue, history, Ledger.of_append, entered.announced, told_append, tellings_append, noTellings,
      List.append_nil, ← List.append_assoc, holds.announced]
  · rw [running, history, told_append, noTellings, List.append_nil]
    exact holds.running
  · rw [running, queue]
    refine (holds.faithful.grows grows).append fun flag => ?_
    rw [history, Ledger.of_append]
    exact entered.faithful flag

theorem told_last (told : List Bool) (running flag : Bool) : (told ++ [running]).getLastD flag = running := by
  simp [List.getLastD_eq_getLast?]

/-- The host is told of the session: the next of what is announced. -/
theorem tell_balanced (h : Play κ) (origin : String) (running : Bool) (rest : Fifo (Item (BridgeTask κ)))
    (front : h.queue.pop? = some (⟨origin, .tell running⟩, rest)) (holds : Balanced h) :
    Balanced { h with queue := rest, seq := h.seq + 1, world := h.world.tell running } := by
  have queued := Fifo.toList_of_pop? front
  have due := holds.due
  have announced := holds.announced
  have faithful := holds.faithful
  rw [queued] at due announced faithful
  -- the telling moves from what waits to what was told; the ledger does not see it
  have ledger : Ledger.of (h.world.tell running).history = Ledger.of h.world.history :=
    Ledger.of_append h.world.history [.told running]
  have tells : told (h.world.tell running).history = told h.world.history ++ [running] :=
    told_append h.world.history [.told running]
  have calls : called (h.world.tell running).history = called h.world.history :=
    (called_append h.world.history [.told running]).trans (List.append_nil _)
  refine ⟨holds.living, ⟨?_, ?_⟩, ?_, ?_, ?_, ?_⟩
  · rw [ledger]; exact holds.mirrors.gone
  · rw [ledger]; exact holds.mirrors.slots
  · rw [ledger, calls]; exact due
  · rw [ledger, tells, List.append_assoc]; exact announced
  · rw [tells, told_last]; rfl
  · rw [ledger]; exact faithful

/-- A callback is called: the next of what is due. It finds the session as its own event says. -/
theorem call_balanced (h : Play κ) (origin : String) (relay : Relay κ) (payload : Payload)
    (rest : Fifo (Item (BridgeTask κ)))
    (front : h.queue.pop? = some (⟨origin, .deliver relay payload⟩, rest)) (holds : Balanced h) :
    let now := calling h rest relay payload
    Balanced now ∧
    FindsOwn (Ledger.of now.world.history).heard now.world.session.bridge.running relay payload := by
  have queued := Fifo.toList_of_pop? front
  have due := holds.due
  have announced := holds.announced
  have faithful := holds.faithful
  rw [queued] at due announced faithful
  have ledger : Ledger.of (h.world.history ++ [.called relay.callback payload]) = Ledger.of h.world.history :=
    Ledger.of_append h.world.history [.called relay.callback payload]
  have calls : called (h.world.history ++ [.called relay.callback payload]) =
      called h.world.history ++ [(relay.callback, payload)] :=
    called_append h.world.history [.called relay.callback payload]
  have tells : told (h.world.history ++ [.called relay.callback payload]) = told h.world.history :=
    (told_append h.world.history [.called relay.callback payload]).trans (List.append_nil _)
  simp only [calling, Stage.note]
  rw [ledger]
  refine ⟨⟨holds.living, ⟨?_, ?_⟩, ?_, ?_, ?_, ?_⟩, faithful.1⟩
  · rw [ledger]; exact holds.mirrors.gone
  · rw [ledger]; exact holds.mirrors.slots
  · rw [ledger, calls, List.append_assoc]; exact due
  · rw [ledger, tells]; exact announced
  · rw [tells]; exact holds.running
  · rw [ledger]; exact faithful.2

theorem moment_balanced {nests : Bool} {h : Play κ} {under : List (Invocation κ)} (m : Moment nests h under) :
    Balanced h := by
  induction m with
  | opened made => exact open_balanced made
  | act m inside a ih => exact (act_balanced _ inside a ih).1
  | tell m free front ih => exact tell_balanced _ _ _ _ front ih
  | call m free front ih => exact (call_balanced _ _ _ _ _ front ih).1
  | finish m panic ih => exact ⟨ih.living, ih.mirrors, ih.due, ih.announced, ih.running, ih.faithful⟩

/-- A callback finds the session as its own event says, as long as it runs. It must not take items from the
queue itself: one of them may tell of another event. -/
theorem moment_finds_own {h : Play κ} {under : List (Invocation κ)} (m : Moment false h under) :
    ∀ invocation ∈ under,
      FindsOwn (Ledger.of h.world.history).heard h.world.session.bridge.running invocation.relay
        invocation.payload := by
  induction m with
  | opened made => simp
  | act m inside a ih =>
      obtain ⟨_, running, grows⟩ := act_balanced _ inside a (moment_balanced m)
      intro invocation member
      rw [running]
      exact (ih invocation member).grows grows
  -- an item is taken only when no callback runs
  | tell m free front ih =>
      obtain rfl : _ = [] := free.resolve_right (by simp)
      simp
  | call m free front ih =>
      obtain rfl : _ = [] := free.resolve_right (by simp)
      intro invocation member
      obtain rfl := List.mem_singleton.mp member
      exact (call_balanced _ _ _ _ _ front (moment_balanced m)).2
  | finish m panic ih =>
      intro invocation member
      exact ih invocation (List.mem_cons_of_mem _ member)

end SpokenIntent.BridgeScript
