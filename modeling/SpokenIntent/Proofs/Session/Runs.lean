import SpokenIntent.Proofs.Session.Moment
import SpokenIntent.Proofs.Session.Requests

/-!
Runs of a bridge: what is done from outside, in order, with callbacks that behave in some way. All that a
run comes to is a moment, also while one of its callbacks acts.
-/

namespace SpokenIntent.BridgeScript

variable {κ : Type} {nests : Bool} {h : Play κ} {under : List (Invocation κ)}

/-- What is done with a bridge and its host from outside. -/
inductive Deed (κ : Type) where
  | act (a : Act κ)
  | drain (d : Drain (Stage κ))

def Deed.move : Deed κ → Move (Stage κ) (BridgeTask κ)
  | .act a => .perform (a.perform false).ignored
  | .drain d => .drain d

/-! ### Items -/

theorem runActs_later (acts : List (Act κ)) (h : Play κ) :
    Later nests (h, under) ((h.perform (runActs acts)).2, under) := by
  induction acts generalizing h with
  | nil =>
      rw [runActs, Host.perform_pure]
  | cons act rest ih =>
      have first : Next nests (h, under) ((h.perform (act.perform true)).2, under) := .act h under true act
      rw [runActs, Host.perform_bind h _ _ fun _ => runActs_framed rest]
      cases ran : h.perform (act.perform true) with
      | mk result after =>
          rw [ran] at first
          cases result with
          | ok reply => exact .head first (ih after)
          -- an act that panics is the last
          | error p => exact .single first

theorem runActs_moment (acts : List (Act κ)) (m : Moment nests h under) :
    Moment nests (h.perform (runActs acts)).2 under :=
  Moment.later m (runActs_later acts h)

/-- A callback that is called does its acts, whether or not it panics after them. -/
theorem invoke_perform (behave : κ → Payload → Script κ) (callback : κ) (payload : Payload) (h : Play κ) :
    (h.perform (invoke behave callback payload)).2 =
      (Host.perform { h with world := h.world.note (.called callback payload) }
        (runActs (behave callback payload).acts)).2 := by
  let script := behave callback payload
  -- the note of the call, the acts and the panic come one after the other, each framed
  rw [invoke, Host.perform_bind h _ _ fun _ =>
    Work.framed_bind (runActs_framed script.acts) fun _ => Work.framed_panicIf script.panic]
  simp only [Host.perform_update]
  rw [Host.perform_bind _ _ _ fun _ => Work.framed_panicIf script.panic]
  cases Host.perform { h with world := h.world.note (.called callback payload) } (runActs script.acts) with
  | mk result after =>
      cases result with
      | ok _ => exact Host.perform_panicIf after script.panic
      | error p => rfl

theorem invoke_later (behave : κ → Payload → Script κ) (callback : κ) (payload : Payload) (h : Play κ) :
    Later nests ({ h with world := h.world.note (.called callback payload) }, under)
      ((h.perform (invoke behave callback payload)).2, under) := by
  rw [invoke_perform]
  exact runActs_later _ _

theorem execute_later (behave : κ → Payload → Script κ) (item : Item (BridgeTask κ))
    (rest : Fifo (Item (BridgeTask κ))) (front : h.queue.pop? = some (item, rest)) :
    Later nests (h, []) (Host.execute (runTask behave) { h with queue := rest } item, []) := by
  obtain ⟨origin, task⟩ := item
  cases task with
  | tell running =>
      have told : Next nests (h, []) _ := .tell (.inl rfl) front
      simpa [Host.execute, runTask, Session.runTask, Host.perform_update] using Relation.ReflTransGen.single told
  | deliver relay payload =>
      have called : Next nests (h, []) _ := .call (.inl rfl) front
      obtain ⟨panic, ran⟩ := Session.deliver_perform (fun running => Work.update (Stage.tell running))
        (invoke behave) ⟨origin, h.seq⟩ relay payload { h with queue := rest, seq := h.seq + 1 }
      have acted : Later nests _ (_, [⟨relay, payload, h.seq⟩]) :=
        invoke_later behave relay.callback payload { h with queue := rest, seq := h.seq + 1 }
      simp only [Host.execute, runTask, ran]
      exact (acted.head called).tail (.finish _ _ ⟨relay, payload, h.seq⟩ panic)

/-! ### Runs -/

theorem drain_later (behave : κ → Payload → Script κ) (d : Drain (Stage κ)) (h : Play κ) :
    Later nests (h, []) (h.drain (runTask behave) d, []) := by
  let c : Chronicle (Stage κ) (BridgeTask κ) := ⟨h, [], []⟩
  have step (c : Chronicle (Stage κ) (BridgeTask κ)) (came : Later nests (h, []) (c.host, [])) :
      Later nests (h, []) ((c.step (runTask behave)).host, []) := by
    cases front : c.host.queue.pop? with
    | none => simpa [Chronicle.step, front] using came
    | some pair =>
        simp only [Chronicle.step, front]
        exact came.trans (execute_later behave pair.1 pair.2 front)
  rw [← Chronicle.drain_host (runTask behave) c d]
  exact Chronicle.drain_invariant (runTask behave) step d c .refl

theorem move_later (behave : κ → Payload → Script κ) (deed : Deed κ) (h : Play κ) :
    Later nests (h, []) (h.move (runTask behave) deed.move, []) := by
  cases deed with
  | drain d => exact drain_later behave d h
  | act a =>
      have acted : Next nests (h, []) _ := .act h [] false a
      simp only [Deed.move, Host.move, Host.perform_eq, Work.ignored_leave] at acted ⊢
      exact .single acted

theorem after_later (behave : κ → Payload → Script κ) (deeds : List (Deed κ)) (h : Play κ) :
    Later nests (h, []) (h.after (runTask behave) (deeds.map Deed.move), []) := by
  induction deeds generalizing h with
  | nil => exact .refl
  | cons deed rest ih => exact (move_later behave deed h).trans (ih _)

theorem after_moment (behave : κ → Payload → Script κ) (deeds : List (Deed κ)) (m : Moment nests h []) :
    Moment nests (h.after (runTask behave) (deeds.map Deed.move)) [] :=
  Moment.later m (after_later behave deeds h)

/-! ### Deliveries -/

theorem balanced_due (holds : Balanced h) :
    called h.world.history ++ deliveries h.queue.toList = (Ledger.of h.world.history).due ∧
    (h.pending = 0 → called h.world.history = (Ledger.of h.world.history).due) := by
  refine ⟨holds.due, fun empty => ?_⟩
  have nothing : h.queue.toList = [] := by
    rw [← List.length_eq_zero_iff, Fifo.length_toList]
    exact empty
  have due := holds.due
  rw [nothing] at due
  exact (List.append_nil _).symm.trans due

/-- At every moment, and so after every run: the callbacks called so far, then the deliveries that wait, are
what was due, in order. Each event is due once, to the callback set for its kind when it was fired. -/
theorem deliveries_exact :
    (∀ (nests : Bool) (h : Play κ) (under : List (Invocation κ)), Moment nests h under →
      called h.world.history ++ deliveries h.queue.toList = (Ledger.of h.world.history).due ∧
      (h.pending = 0 → called h.world.history = (Ledger.of h.world.history).due)) ∧
    (∀ (behave : κ → Payload → Script κ) (factory : EngineFactory Recorder) (credentials : Credentials)
      (h : Play κ) (deeds : List (Deed κ)), open? factory credentials = .ok h →
      let after := h.after (runTask behave) (deeds.map Deed.move)
      called after.world.history ++ deliveries after.queue.toList = (Ledger.of after.world.history).due ∧
      (after.pending = 0 → called after.world.history = (Ledger.of after.world.history).due)) := by
  refine ⟨fun nests h under m => balanced_due (moment_balanced m), ?_⟩
  intro behave factory credentials h deeds made
  have m : Moment false h [] := .opened made
  exact balanced_due (moment_balanced (after_moment behave deeds m))

/-- A play with nothing done yet, over an engine that refuses nothing. -/
def fresh : Play Nat :=
  Host.start ⟨⟨⟨[.create "k" "r", .grammar, .connect], true, fun _ => none⟩, Bridge.create⟩, []⟩

theorem fresh_opened :
    open? (Recorder.factory fun _ => none) ⟨"k", "r", by decide +kernel, by decide +kernel⟩ = .ok fresh := rfl

/-- The first callback puts another in its place, fires an event itself, and panics. -/
def replacing : Nat → Payload → Script Nat
  | 1, _ => ⟨[.on .recognized 3, .fire (.recognized (.textOnly "again")) false], some .other⟩
  | _, _ => ⟨[], none⟩

/-- Two deliveries wait, each for a callback that is no longer set when its turn comes. -/
def replacedDeeds : List (Deed Nat) :=
  [.act (.on .recognized 1), .act (.fire (.recognized (.textOnly "a")) false), .act (.on .recognized 2),
    .act (.fire (.recognized (.textOnly "b")) false), .act (.fire (.recognizing (.textOnly "lost")) false),
    .drain (.runPending 1), .act .letGo, .act (.fire (.recognized (.textOnly "late")) true)]

theorem replaced_deliveries_exact :
    let waiting := fresh.after (runTask replacing) (replacedDeeds.map Deed.move)
    let done := fresh.after (runTask replacing)
      ((replacedDeeds ++ [Deed.drain (.runFor 9)]).map Deed.move)
    called waiting.world.history ++ deliveries waiting.queue.toList = (Ledger.of waiting.world.history).due ∧
    (called waiting.world.history).map Prod.fst = [1] ∧
    (deliveries waiting.queue.toList).map Prod.fst = [2, 3] ∧
    called done.world.history = (Ledger.of done.world.history).due := by
  intro waiting done
  have exact := fun deeds => deliveries_exact.2 replacing _ _ fresh deeds fresh_opened
  refine ⟨(exact replacedDeeds).1, by decide +kernel, by decide +kernel, ?_⟩
  exact (exact (replacedDeeds ++ [Deed.drain (.runFor 9)])).2 (by decide +kernel)

/-! ### The flag -/

/-- The flag says whether the event that was told of last began a session. -/
theorem balanced_flag (holds : Balanced h) :
    h.world.session.bridge.running = true ↔
      ∃ id, ((Ledger.of h.world.history).lifecycle.take (told h.world.history).length).getLast? =
        some (.started id) := by
  have tells : ((Ledger.of h.world.history).lifecycle.take (told h.world.history).length).map
      EngineEvent.sessionRuns? = (told h.world.history).map some := by
    rw [List.map_take, Ledger.lifecycle_announced, ← holds.announced, ← List.map_take, List.take_left]
  have last : (((Ledger.of h.world.history).lifecycle.take (told h.world.history).length).getLast?).map
      EngineEvent.sessionRuns? = (told h.world.history).getLast?.map some := by
    rw [← List.getLast?_map, tells, List.getLast?_map]
  rw [holds.running, List.getLastD_eq_getLast?]
  -- either nothing was told yet, or the last event told of is a lifecycle event of one of three kinds
  cases latest : ((Ledger.of h.world.history).lifecycle.take (told h.world.history).length).getLast? with
  | none =>
      rw [latest] at last
      cases said : (told h.world.history).getLast? with
      | none => simp
      | some running => simp [said] at last
  | some event =>
      rw [latest] at last
      cases said : (told h.world.history).getLast? with
      | none => simp [said] at last
      | some running =>
          simp only [said, Option.map_some, Option.some.injEq] at last
          cases event <;> cases last <;> simp

theorem isRunning_reply (inside : Bool) (h : Play κ) (here : h.world.session.bridge.detached = false) :
    (h.perform (Act.isRunning.perform inside)).1 = .ok (.flag h.world.session.bridge.running) := by
  simp only [Host.perform, Act.perform, Act.run, withBridge, Work.bind_apply, Work.read_apply, here,
    Bool.false_eq_true, ↓reduceIte]
  rfl

/-- At every moment: what the host has been told of the session, then the tellings that wait, is what the
events say that were heard, in order; the flag says whether the event told of last began a session, and is
what those who ask are answered; no act changes it. A callback that drains no queue itself finds it, as long
as it runs, as the event says for which it was called. Runs come to such moments, between their deeds and
after any of the acts of a callback. -/
theorem flag_last_told :
    (∀ (nests : Bool) (h : Play κ) (under : List (Invocation κ)), Moment nests h under →
      let flag := h.world.session.bridge.running
      let ledger := Ledger.of h.world.history
      let told := told h.world.history
      told ++ tellings h.queue.toList = ledger.announced ∧
      (flag = true ↔ ∃ id, (ledger.lifecycle.take told.length).getLast? = some (.started id)) ∧
      (h.world.session.bridge.detached = false → ∀ inside,
        (h.perform (Act.isRunning.perform inside)).1 = .ok (.flag flag)) ∧
      (∀ (inside : Bool) (a : Act κ),
        (h.perform (a.perform inside)).2.world.session.bridge.running = flag)) ∧
    (∀ (h : Play κ) (under : List (Invocation κ)), Moment false h under → ∀ invocation ∈ under,
      let flag := h.world.session.bridge.running
      FindsOwn (Ledger.of h.world.history).heard flag invocation.relay invocation.payload ∧
      (invocation.relay.name = Channel.started.name → flag = true) ∧
      (invocation.relay.name = Channel.stopped.name → flag = false) ∧
      (invocation.relay.name = Channel.canceled.name → flag = false)) ∧
    (∀ (behave : κ → Payload → Script κ) (factory : EngineFactory Recorder) (credentials : Credentials)
      (h : Play κ) (deeds : List (Deed κ)), open? factory credentials = .ok h →
      let after := h.after (runTask behave) (deeds.map Deed.move)
      Moment false after [] ∧
      ∀ origin relay payload rest, after.queue.pop? = some (⟨origin, .deliver relay payload⟩, rest) →
        ∀ acts, Moment false ((calling after rest relay payload).perform (runActs acts)).2
          [⟨relay, payload, after.seq⟩]) := by
  refine ⟨fun nests h under m => ?_, fun h under m invocation member => ?_, ?_⟩
  · have holds := moment_balanced m
    exact ⟨holds.announced, balanced_flag holds, fun here inside => isRunning_reply inside h here,
      fun inside a => (act_balanced h inside a holds).2.1⟩
  · have finds := moment_finds_own m invocation member
    exact ⟨finds, finds.flag⟩
  · intro behave factory credentials h deeds made
    have m : Moment false (h.after (runTask behave) (deeds.map Deed.move)) [] :=
      after_moment behave deeds (.opened made)
    refine ⟨m, fun origin relay payload rest front acts => ?_⟩
    exact runActs_moment acts (m.call (.inl rfl) front)

/-- A session begins and ends before any item runs; then the host is told that it began. -/
def overtakenDeeds : List (Deed Nat) :=
  [.act (.on .started 1), .act (.on .stopped 2), .act (.fire (.started "s") false),
    .act (.fire (.stopped "s") false), .drain (.runUntil (fun s => s.session.bridge.running) 9)]

/-- The callback of the beginning starts, asks and fires yet another end; it still finds the session running. -/
theorem overtaken_flag_last_told :
    let after := fresh.after (runTask replacing) (overtakenDeeds.map Deed.move)
    let acts : List (Act Nat) := [.start, .isRunning, .fire (.canceled ⟨"s", .error, none, "lost"⟩) true]
    let relay : Relay Nat := ⟨"started", 1⟩
    let rest : Fifo (Item (BridgeTask Nat)) :=
      ⟨[⟨"stopped", .tell false⟩, ⟨"stopped", .deliver ⟨"stopped", 2⟩ (.session ⟨"s"⟩)⟩], []⟩
    let inside := ((calling after rest relay (.session ⟨"s"⟩)).perform (runActs acts)).2
    inside.world.session.bridge.running = true ∧
    tellings inside.queue.toList = [false, false] ∧
    told inside.world.history ++ tellings inside.queue.toList =
      (Ledger.of inside.world.history).announced := by
  intro after acts relay rest inside
  have m := (flag_last_told.2.2 replacing _ _ fresh overtakenDeeds fresh_opened).2 "started" relay
    (.session ⟨"s"⟩) rest rfl acts
  have finds := flag_last_told.2.1 inside _ m _ (List.mem_singleton.mpr rfl)
  exact ⟨finds.2.1 rfl, by decide +kernel, (flag_last_told.1 false inside _ m).1⟩

end SpokenIntent.BridgeScript
