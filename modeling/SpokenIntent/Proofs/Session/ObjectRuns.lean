import SpokenIntent.Proofs.Session.Objects

/-!
Runs of bridge objects: what is done from outside, in order, with functions of the host that behave in some
way. All that a run comes to is a moment; so whenever no item waits, those who ask whether a session runs are
answered what the engine has.
-/

namespace SpokenIntent.ObjectScript

/-! ### Acts go by the stage alone -/

theorem onLatest_framed {α : Type} (session : ObjectSession)
    (act : Session.Act (Tapped (Simulator Unit)) HostFunction α) : Work.Framed (onLatest session act) :=
  Work.framed_bind Work.framed_read fun _ => Work.framed_within _ _ _ _

theorem withEngine_framed {act : ObjectSession → StageWork Reply} (framed : ∀ session, Work.Framed (act session)) :
    Work.Framed (withEngine act) := by
  apply Work.framed_bind Work.framed_read
  intro s
  cases s.latest with
  | none => exact Work.framed_pure _
  | some session => exact framed session

theorem withObject_framed {act : ObjectSession → StageWork Reply} (framed : ∀ session, Work.Framed (act session)) :
    Work.Framed (withObject act) := by
  apply Work.framed_bind Work.framed_read
  intro s
  cases s.latest with
  | none => exact Work.framed_pure _
  | some session =>
      by_cases gone : session.bridge.detached = true
      · simp only [gone, ↓reduceIte]
        exact Work.framed_pure _
      · simp only [gone, Bool.false_eq_true, ↓reduceIte]
        exact framed session

theorem command_framed (c : SimulatorCommand Unit) : Work.Framed (command c) :=
  withEngine_framed fun session => Work.framed_bind (onLatest_framed session _) fun _ => Work.framed_pure _

theorem act_framed (a : Act) : Work.Framed a.run := by
  cases a with
  | invoke method args =>
      apply withObject_framed
      intro session
      apply Work.framed_bind (onLatest_framed session _)
      intro result
      cases result <;> exact Work.framed_pure _
  | isRunning => exact withObject_framed fun _ => Work.framed_pure _
  | created => exact Work.framed_bind Work.framed_read fun _ => Work.framed_pure _
  | letGo =>
      apply Work.framed_bind Work.framed_read
      intro s
      cases s.latest with
      | none => exact Work.framed_pure _
      | some session =>
          by_cases gone : session.bridge.detached = true
          · simp only [gone, ↓reduceIte]
            exact Work.framed_pure _
          · simp only [gone, Bool.false_eq_true, ↓reduceIte]
            exact Work.framed_bind (onLatest_framed session _) fun _ => Work.framed_pure _
  | speak utterance => exact command_framed _
  | fail code details => exact command_framed _
  | endOfStream => exact command_framed _
  | clearPhrases => exact command_framed _
  | requests => exact withEngine_framed fun _ => Work.framed_pure _
  | phrases => exact withEngine_framed fun _ => Work.framed_pure _
  | intentCount => exact withEngine_framed fun _ => Work.framed_pure _

theorem runActs_framed (acts : List Act) : Work.Framed (runActs acts) := by
  induction acts with
  | nil => exact Work.framed_pure ()
  | cons act rest ih =>
      exact Work.framed_bind (act_framed act) fun _ => Work.framed_bind (Work.framed_update _) fun _ => ih

/-! ### Runs -/

variable {taken : List (Item Task)}

theorem runActs_later (acts : List Act) (h : Play) : Later (h, taken) ((h.perform (runActs acts)).2, taken) := by
  induction acts generalizing h with
  | nil => rw [runActs, Host.perform_pure]
  | cons act rest ih =>
      have acted : Next (h, taken) ((h.perform act.run).2, taken) := .act h taken act
      rw [runActs, Host.perform_bind h _ _ fun _ => Work.framed_bind (Work.framed_update _) fun _ => runActs_framed rest]
      cases ran : h.perform act.run with
      | mk result after =>
          rw [ran] at acted
          cases result with
          -- an act that panics is the last
          | error p => exact .single acted
          | ok reply =>
              simp only
              rw [Host.perform_bind after _ _ fun _ => runActs_framed rest, Host.perform_update]
              exact (ih _).head (.note after taken (.acted act reply)) |>.head acted

theorem invoke_later (behave : HostFunction → Script) (f : HostFunction) (payload : Payload) (h : Play) :
    Later (h, taken) ((h.perform (invoke behave f payload)).2, taken) := by
  let now : Play := { h with world := h.world.note (.called f payload) }
  have noted : Next (h, taken) (now, taken) := .note h taken (.called f payload)
  have acted : Later (now, taken) ((now.perform (runActs (behave f).acts)).2, taken) := runActs_later _ now
  rw [invoke, Host.perform_bind h _ _ fun _ =>
    Work.framed_bind (runActs_framed (behave f).acts) fun _ => Work.framed_panicIf (behave f).panic]
  simp only [Host.perform_update]
  rw [Host.perform_bind _ _ _ fun _ => Work.framed_panicIf (behave f).panic]
  cases ran : now.perform (runActs (behave f).acts) with
  | mk result after =>
      rw [ran] at acted
      cases result with
      | ok _ => simpa [now, ran, Host.perform_panicIf] using acted.head noted
      | error p => simpa [now, ran] using acted.head noted

theorem execute_later (behave : HostFunction → Script) (item : Item Task) (rest : Fifo (Item Task)) (h : Play)
    (front : h.queue.pop? = some (item, rest)) :
    Later (h, taken) (Host.execute (runTask behave) { h with queue := rest } item, taken ++ [item]) := by
  have took : Next (h, taken) _ := .take front
  obtain ⟨origin, serial, task⟩ := item
  cases task with
  | tell running =>
      simpa [Host.execute, runTask, Session.runTask, Host.perform_update, Stage.heed] using
        Relation.ReflTransGen.single took
  | deliver relay payload =>
      let now : Play := { h with queue := rest, seq := h.seq + 1 }
      obtain ⟨panic, ran⟩ := Session.deliver_perform (fun running => Work.update (Stage.tell serial running))
        (invoke behave) ⟨origin, h.seq⟩ relay payload { h with queue := rest, seq := h.seq + 1 }
      have invoked : Later (now, taken ++ [⟨origin, serial, .deliver relay payload⟩]) _ :=
        invoke_later behave relay.callback payload now
      simp only [Host.execute, runTask, ran]
      exact (invoked.head took).tail (.report _ _ _)

/-- What is done with objects and their host from outside. -/
inductive Deed where
  | construct (args : List HostValue)
  | act (a : Act)
  | drain (d : Drain Stage)

def Deed.move : Deed → Move Stage Task
  | .construct args => .perform (ObjectScript.construct args).ignored
  | .act a => .perform a.run.ignored
  | .drain d => .drain d

theorem step_later (behave : HostFunction → Script) (c : Chronicle Stage Task) :
    Later (c.host, c.turns.map Turn.item)
      ((c.step (runTask behave)).host, (c.step (runTask behave)).turns.map Turn.item) := by
  cases front : c.host.queue.pop? with
  | none => simp [Chronicle.step, front, Relation.ReflTransGen.refl]
  | some pair =>
      simp only [Chronicle.step, front, List.map_append, List.map_cons, List.map_nil]
      exact execute_later behave pair.1 pair.2 c.host front

theorem move_later (behave : HostFunction → Script) (deed : Deed) (c : Chronicle Stage Task) :
    Later (c.host, c.turns.map Turn.item)
      ((c.move (runTask behave) deed.move).host, (c.move (runTask behave) deed.move).turns.map Turn.item) := by
  cases deed with
  | construct args =>
      have made : Next (c.host, c.turns.map Turn.item) _ := .construct c.host _ args
      simp only [Deed.move, Chronicle.move, Chronicle.perform, Host.perform_eq, Work.ignored_leave] at made ⊢
      exact .single made
  | act a =>
      have acted : Next (c.host, c.turns.map Turn.item) _ := .act c.host _ a
      simp only [Deed.move, Chronicle.move, Chronicle.perform, Host.perform_eq, Work.ignored_leave] at acted ⊢
      exact .single acted
  | drain d =>
      have step (next : Chronicle Stage Task)
          (came : Later (c.host, c.turns.map Turn.item) (next.host, next.turns.map Turn.item)) :
          Later (c.host, c.turns.map Turn.item)
            ((next.step (runTask behave)).host, (next.step (runTask behave)).turns.map Turn.item) :=
        came.trans (step_later behave next)
      exact Chronicle.drain_invariant (runTask behave) step d c .refl

theorem after_moment (behave : HostFunction → Script) {accepts : Bool} {ids : Nat → String} (deeds : List Deed)
    (c : Chronicle Stage Task) (m : Moment accepts ids c.host (c.turns.map Turn.item)) :
    let after := c.after (runTask behave) (deeds.map Deed.move)
    Moment accepts ids after.host (after.turns.map Turn.item) := by
  induction deeds generalizing c with
  | nil => exact m
  | cons deed rest ih => exact ih (c.move (runTask behave) deed.move) (m.trans (move_later behave deed c))

/-! ### The session -/

theorem agreed_session {h : Play} {taken : List (Item Task)} (agreed : Agreed h taken) {session : ObjectSession}
    (latest : h.world.latest = some session) (here : session.bridge.detached = false) :
    let told := tellings h.world.created taken
    let owed := tellings h.world.created h.queue.toList
    session.bridge.running = told.getLastD false ∧
    (told ++ owed).getLastD false = session.engine.engine.session.isSome ∧
    (owed = [] → session.bridge.running = session.engine.engine.session.isSome) := by
  have flag := agreed.flag session latest
  have last := (agreed.agrees session latest here).2
  rw [tellings_append] at last
  refine ⟨flag, last, ?_⟩
  intro nothing
  rw [nothing, List.append_nil] at last
  exact flag.trans last

theorem isRunning_reply {h : Play} {session : ObjectSession} (latest : h.world.latest = some session)
    (here : session.bridge.detached = false) :
    (h.perform Act.isRunning.run).1 = .ok (.flag session.bridge.running) := by
  simp only [Host.perform, Act.run, withObject, Work.bind_apply, Work.read_apply, latest, here,
    Bool.false_eq_true, ↓reduceIte, Work.pure_apply]

/-- At every moment, with credentials that are accepted or not, of an object that has not been let go: the flag
is what the host was told last, and what it was told and then is to be told ends with whether the engine has a
session; so if nothing is left to be told, the flag is whether it has one. Runs come to such moments, whatever
is done from outside and whatever functions of the host do when they are called; and after a drain that runs
out of items, those who ask are answered whether the engine has a session. -/
theorem sessions_agree (accepts : Bool) (ids : Nat → String) :
    (∀ (h : Play) (taken : List (Item Task)), Moment accepts ids h taken →
      ∀ session, h.world.latest = some session → session.bridge.detached = false →
        let told := tellings h.world.created taken
        let owed := tellings h.world.created h.queue.toList
        session.bridge.running = told.getLastD false ∧
        (told ++ owed).getLastD false = session.engine.engine.session.isSome ∧
        (owed = [] → session.bridge.running = session.engine.engine.session.isSome)) ∧
    (∀ (behave : HostFunction → Script) (deeds : List Deed),
      let c := (Chronicle.start (Stage.create accepts ids)).after (runTask behave) (deeds.map Deed.move)
      c.host = (Host.start (Stage.create accepts ids)).after (runTask behave) (deeds.map Deed.move) ∧
      Moment accepts ids c.host (c.turns.map Turn.item) ∧
      ∀ limit count drained, c.host.runPending (runTask behave) limit = (count, drained) → count < limit →
        ∀ session, drained.world.latest = some session → session.bridge.detached = false →
          (drained.perform Act.isRunning.run).1 = .ok (.flag session.engine.engine.session.isSome)) := by
  constructor
  · intro h taken m session latest here
    exact agreed_session (moment_agreed m) latest here
  · intro behave deeds c
    have m : Moment accepts ids c.host (c.turns.map Turn.item) := after_moment behave deeds _ .refl
    refine ⟨?_, m, ?_⟩
    · exact Chronicle.after_host (runTask behave) (deeds.map Deed.move) (Chronicle.start (Stage.create accepts ids))
    · intro limit count drained ran returned session latest here
      have drains := move_later behave (.drain (.runPending limit)) c
      have host := Chronicle.drain_host (runTask behave) c (.runPending limit)
      have empty := Chronicle.runPending_empty (runTask behave) limit c.host
      simp only [Deed.move, Chronicle.move, host, Host.drain, ran] at drains empty
      have agreed := moment_agreed (m.trans drains)
      obtain ⟨-, -, settled⟩ := agreed_session agreed latest here
      rw [isRunning_reply latest here, settled (by rw [empty returned]; rfl)]

/-- The first function leaves its place to the second, stops the session that it is told of, starts another that
fails, then a third, and panics. -/
def restless : HostFunction → Script
  | ⟨1⟩ => ⟨[.invoke "onStarted" [.function ⟨2⟩], .invoke "stopContinuousRecognition" [],
      .invoke "startRecognition" [], .fail "1006" "lost", .isRunning, .invoke "startRecognition" [.null]],
      some .other⟩
  | _ => ⟨[], none⟩

/-- The function is called, and the audio ends. -/
def restlessDeeds : List Deed :=
  [.construct [.object [("key", .string "k"), ("region", .string "r")]],
    .act (.invoke "onStarted" [.function ⟨1⟩]), .act (.invoke "startContinuousRecognition" []),
    .drain (.runFor 1), .drain (.runFor 1), .act .endOfStream]

/-- The flag is three sessions behind, and what waits to be told makes good for it. -/
theorem restless_session_agrees :
    let ids : Nat → String := fun k => if k = 0 then "a" else if k = 1 then "b" else "c"
    let c := (Chronicle.start (Stage.create true ids)).after (runTask restless) (restlessDeeds.map Deed.move)
    tellings c.host.world.created (c.turns.map Turn.item) = [true] ∧
    tellings c.host.world.created c.host.queue.toList = [false, true, false, true, false] ∧
    (∃ session, c.host.world.latest = some session ∧ session.bridge.running = true ∧
      session.engine.engine.session.isSome = false) ∧
    ∃ drained session, c.host.runPending (runTask restless) 9 = (7, drained) ∧
      drained.world.latest = some session ∧
      (drained.perform Act.isRunning.run).1 = .ok (.flag session.engine.engine.session.isSome) := by
  intro ids c
  obtain ⟨moments, runs⟩ := sessions_agree true ids
  obtain ⟨-, m, drains⟩ := runs restless restlessDeeds
  have told : tellings c.host.world.created (c.turns.map Turn.item) = [true] := by decide +kernel
  have owed : tellings c.host.world.created c.host.queue.toList = [false, true, false, true, false] := by
    decide +kernel
  have here : c.host.world.latest.map (fun session => session.bridge.detached) = some false := by decide +kernel
  have seven : (c.host.runPending (runTask restless) 9).1 = 7 := by decide +kernel
  have still : (c.host.runPending (runTask restless) 9).2.world.latest.map
      (fun session => session.bridge.detached) = some false := by decide +kernel
  obtain ⟨session, latest, attached⟩ := Option.map_eq_some_iff.mp here
  obtain ⟨flag, active, -⟩ := moments c.host _ m session latest attached
  refine ⟨told, owed, ⟨session, latest, ?_, ?_⟩, ?_⟩
  · rw [flag, told]
    rfl
  · rw [← active, told, owed]
    rfl
  · cases ran : c.host.runPending (runTask restless) 9 with
    | mk count drained =>
        rw [ran] at seven still
        obtain ⟨last, newest, kept⟩ := Option.map_eq_some_iff.mp still
        obtain rfl : count = 7 := seven
        exact ⟨drained, last, rfl, newest, drains 9 7 drained ran (by decide) last newest kept⟩

end SpokenIntent.ObjectScript
