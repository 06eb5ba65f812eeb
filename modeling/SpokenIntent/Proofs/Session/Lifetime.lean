import SpokenIntent.Proofs.Host.Keeps
import SpokenIntent.Proofs.Session.Construction

/-!
What an engine is asked as long as its bridge lives, and when it is let go. The host may do what it likes with the
bridge, from outside and in callbacks, catch panics and go by whatever it sees; the engine may do what it likes on its
own. What the engine has been asked is what it took to make the bridge, and then the calls of the bridge that ask for
something, each of them, in order.
-/

namespace SpokenIntent

/-- What a call has the engine asked. -/
def ObjectCall.request? : ObjectCall → Option Request
  | .addIntent phrase intentId => some (.addIntent phrase intentId)
  | .addPhrase phrase => some (.addPhrase phrase)
  | .start => some .start
  | .stop => some .stop
  | .on _ _ => none
  | .isRunning => none

variable {ε : Type}

/-- What an engine does of its own accord, which nobody has asked for. -/
def Journaled.unasked (f : ε → Reaction ε) (e : Journaled ε) : Reaction (Journaled ε) :=
  let reaction := f e.engine
  ⟨⟨reaction.engine, e.asked⟩, reaction.fired, reaction.panic⟩

/-- A bridge together with the calls that have been made of it, and its engine as it was when the bridge was let go. -/
structure Watched (ε : Type) where
  session : Session (Journaled ε) HostFunction
  calls : List ObjectCall
  left : Option ε

namespace Watched

abbrev Code (ε α : Type) := Work (Watched ε) (BridgeTask HostFunction) α

def setSession (session : Session (Journaled ε) HostFunction) (w : Watched ε) : Watched ε :=
  { w with session := session }

def note (calls : List ObjectCall) (w : Watched ε) : Watched ε := { w with calls := w.calls ++ calls }

def noteLeft (w : Watched ε) : Watched ε := { w with left := some w.session.engine.engine }

@[simp] theorem note_session (calls : List ObjectCall) (w : Watched ε) : (note calls w).session = w.session := rfl

@[simp] theorem noteLeft_session (w : Watched ε) : (noteLeft w).session = w.session := rfl

def tell (running : Bool) (w : Watched ε) : Watched ε := w.setSession (w.session.told running)

def onSession {α : Type} (act : Session.Act (Journaled ε) HostFunction α) : Code ε α :=
  Work.within session setSession id act

/-- What is done with a bridge that is still there. It is noted before anything comes of it. -/
def withBridge {α : Type} (mark : Watched ε → Watched ε) (act : Session.Act (Journaled ε) HostFunction α) :
    Code ε (Option α) := do
  if (← Work.read).session.bridge.detached then pure none
  else
    Work.update mark
    some <$> onSession act

theorem withBridge_keeps {α : Type} {P : Watched ε → Prop} {mark : Watched ε → Watched ε}
    (same : ∀ w, (mark w).session = w.session) {act : Session.Act (Journaled ε) HostFunction α}
    (keeps : ∀ w, P w → w.session.bridge.detached = false →
      P (setSession (act.leave w.session).world (mark w))) : Work.Keeps P (withBridge mark act) := by
  intro e holds
  simp only [withBridge, Work.bind_apply, Work.read_apply]
  cases here : e.world.session.bridge.detached with
  -- A bridge that was let go is not called any more.
  | true => exact holds
  | false =>
      have left := keeps e.world holds here
      rw [Work.leave] at left
      simp only [Bool.false_eq_true, ↓reduceIte, Work.bind_apply, Work.update_apply, Work.map_apply, onSession,
        Work.within]
      rw [same]
      cases ran : act ⟨e.world.session, [], []⟩ <;> (rw [ran] at left; exact left)

variable [Engine ε]

/-- A call by name. One that is rejected is no call of the bridge. -/
def invoke (method : String) (args : List HostValue) : Code ε (Option (Except ArgumentError HostValue)) :=
  withBridge (note (ObjectCall.parse method args).toOption.toList) (Session.invoke method args)

def call (c : ObjectCall) : Code ε (Option HostValue) := withBridge (note [c]) c.perform

def letGo : Code ε (Option Unit) := withBridge noteLeft Session.teardown

/-- Host code of any kind that works with a bridge by way of its methods, while its engine works too. -/
inductive Plays : {α : Type} → Code ε α → Prop where
  | pure {α : Type} (a : α) : Plays (pure a)
  | read : Plays Work.read
  | panic {α : Type} (p : Panic) : Plays (Work.panic p : Code ε α)
  | post (items : List (Item (BridgeTask HostFunction))) : Plays (Work.post items)
  | report (entry : LogEntry) : Plays (Work.report entry)
  | bind {α β : Type} {work : Code ε α} {next : α → Code ε β} (first : Plays work) (second : ∀ a, Plays (next a)) :
      Plays (work >>= next)
  | attempt {α : Type} {work : Code ε α} (plays : Plays work) : Plays work.attempt
  | invoke (method : String) (args : List HostValue) : Plays (invoke method args)
  | call (c : ObjectCall) : Plays (call c)
  | letGo : Plays letGo
  | react (f : ε → Reaction ε) : Plays (onSession (Session.react (Journaled.unasked f)))
  | hear (event : EngineEvent) : Plays (onSession (Session.fire event))

theorem Plays.ignored {α : Type} {code : Code ε α} (plays : Plays code) : Plays code.ignored :=
  .bind plays fun _ => .pure ()

def runTask (react : HostFunction → Payload → Code ε Unit) (scope : Scope) (task : BridgeTask HostFunction) :
    Code ε Unit :=
  Session.runTask (fun running => Work.update (tell running)) react scope task

/-! ### The journal -/

/-- The journal of an engine: what it took to make the bridge, then the calls, and in the end the teardown. -/
structure Journal (first : List Request) (w : Watched ε) : Prop where
  here : w.session.bridge.detached = false →
    w.session.engine.asked = first ++ w.calls.filterMap ObjectCall.request?
  gone : w.session.bridge.detached = true → ∃ engine, w.left = some engine ∧
    w.session.engine.asked = first ++ w.calls.filterMap ObjectCall.request? ++
      .stop :: if (Engine.request .stop engine).panic = none then [.disconnect] else []

variable {first : List Request}

/-- What a call has the engine asked is all that it is asked, and the bridge stays. -/
theorem perform_asked (c : ObjectCall) (s : Session (Journaled ε) HostFunction) :
    let left := ((c.perform : Session.Act (Journaled ε) HostFunction HostValue).leave s).world
    left.engine.asked = s.engine.asked ++ c.request?.toList ∧ left.bridge.detached = s.bridge.detached := by
  have asks (r : Request) :
      let left := ((Session.ask r >>= fun _ => pure HostValue.undefined :
        Session.Act (Journaled ε) HostFunction HostValue).leave s).world
      left.engine.asked = s.engine.asked ++ [r] ∧ left.bridge.detached = s.bridge.detached := by
    rw [Work.leave_pure, Session.ask, Session.react_leave]
    exact ⟨rfl, rfl⟩
  cases c with
  | addIntent phrase intentId => exact asks (.addIntent phrase intentId)
  | addPhrase phrase => exact asks (.addPhrase phrase)
  | start => exact asks .start
  | stop => exact asks .stop
  | on channel callback => exact ⟨(List.append_nil _).symm, rfl⟩
  | isRunning => exact ⟨(List.append_nil _).symm, rfl⟩

theorem invoke_asked (method : String) (args : List HostValue) (s : Session (Journaled ε) HostFunction) :
    let left := ((Session.invoke method args : Session.Act (Journaled ε) HostFunction _).leave s).world
    left.engine.asked = s.engine.asked ++
      (ObjectCall.parse method args).toOption.toList.filterMap ObjectCall.request? ∧
    left.bridge.detached = s.bridge.detached := by
  rw [Session.invoke]
  cases parsed : ObjectCall.parse method args with
  | error e => exact ⟨(List.append_nil _).symm, rfl⟩
  | ok c =>
      simp only [Work.leave_pure]
      have asked := perform_asked c s
      cases request : c.request? <;> simpa [Except.toOption, request] using asked

/-! ### What keeps the journal -/

theorem calls_keep {α : Type} {calls : List ObjectCall} {act : Session.Act (Journaled ε) HostFunction α}
    (asks : ∀ s : Session (Journaled ε) HostFunction, let left := (act.leave s).world
      left.engine.asked = s.engine.asked ++ calls.filterMap ObjectCall.request? ∧
      left.bridge.detached = s.bridge.detached) : Work.Keeps (Journal first) (withBridge (note calls) act) := by
  apply withBridge_keeps (note_session calls)
  intro w journal here
  obtain ⟨asked, stays⟩ := asks w.session
  constructor
  · intro _
    simp only [setSession, note, asked, journal.here here, List.filterMap_append, List.append_assoc]
  · intro gone
    simp only [setSession, note, stays, here] at gone
    cases gone

theorem letGo_keeps : Work.Keeps (Journal first) (letGo : Code ε (Option Unit)) := by
  apply withBridge_keeps noteLeft_session
  intro w journal here
  have left : (Session.teardown.leave w.session).world =
      ⟨(Session.lastReaction w.session.engine).engine, { w.session.bridge with detached := true }⟩ := by
    rw [Work.leave, Session.teardown_run]
  constructor
  · intro still
    simp only [setSession, left] at still
    cases still
  · intro _
    obtain ⟨asked, -⟩ := Session.lastReaction_asked w.session.engine
    rw [journal.here here] at asked
    refine ⟨w.session.engine.engine, rfl, ?_⟩
    simp only [setSession, noteLeft, left, asked]

/-- What the engine does on its own, and what its receiver hears, is not asked for. -/
theorem aside_keeps {act : Session.Act (Journaled ε) HostFunction Unit}
    (aside : ∀ s : Session (Journaled ε) HostFunction, let left := (act.leave s).world
      left.engine.asked = s.engine.asked ∧ left.bridge.detached = s.bridge.detached) :
    Work.Keeps (Journal first) (onSession act) := by
  apply Work.keeps_within
  intro w journal
  obtain ⟨asked, stays⟩ := aside w.session
  constructor
  · intro here
    simp only [setSession, stays] at here
    simp only [setSession, asked, journal.here here]
  · intro gone
    simp only [setSession, stays] at gone
    simp only [setSession, asked]
    exact journal.gone gone

theorem plays_keep {α : Type} {code : Code ε α} (plays : Plays code) : Work.Keeps (Journal first) code := by
  induction plays with
  | pure a => exact Work.keeps_pure a
  | read => exact Work.keeps_read
  | panic p => exact Work.keeps_panic p
  | post items => exact Work.keeps_post items
  | report entry => exact Work.keeps_report entry
  | bind first second ihFirst ihSecond => exact Work.keeps_bind ihFirst ihSecond
  | attempt plays ih => exact Work.keeps_attempt ih
  | invoke method args => exact calls_keep (invoke_asked method args)
  | call c =>
      apply calls_keep
      intro s
      have asked := perform_asked c s
      cases request : c.request? <;> simpa [request] using asked
  | letGo => exact letGo_keeps
  | react f =>
      apply aside_keeps
      intro s
      rw [Session.react_leave]
      exact ⟨rfl, rfl⟩
  | hear event => exact aside_keeps fun s => ⟨rfl, rfl⟩

/-- An item tells of the session, or calls a function of the host. -/
theorem task_keeps {react : HostFunction → Payload → Code ε Unit} (plays : ∀ f payload, Plays (react f payload))
    (scope : Scope) (task : BridgeTask HostFunction) : Work.Keeps (Journal first) (runTask react scope task) := by
  cases task with
  | tell running => exact Work.keeps_update fun w journal => ⟨journal.here, journal.gone⟩
  | deliver relay payload =>
      apply Work.keeps_bind (Work.keeps_attempt (Work.keeps_pure _))
      intro built
      rcases built with p | e | payload
      · exact Work.keeps_report _
      · exact Work.keeps_report _
      -- The function is host code, and may call the bridge again.
      · apply Work.keeps_bind (Work.keeps_attempt (plays_keep (plays relay.callback payload)))
        intro result
        cases result with
        | error p => exact Work.keeps_report _
        | ok _ => exact Work.keeps_pure ()

/-- For as long as a bridge lives, and after that. -/
theorem life_journal {react : HostFunction → Payload → Code ε Unit} (plays : ∀ f payload, Plays (react f payload))
    {moves : List (Move (Watched ε) (BridgeTask HostFunction))} (works : ∀ work, .perform work ∈ moves → Plays work)
    {c : Credentials} {h : Host (Watched ε) (BridgeTask HostFunction)} (made : Session.New c h.world.session)
    (uncalled : h.world.calls = []) :
    Journal [.create c.key c.region, .grammar, .connect] (h.after (runTask react) moves).world := by
  refine Host.after_keeps (task_keeps plays) moves (fun work member => plays_keep (works work member)) h ?_
  constructor
  · intro _
    simp [made.asked, uncalled]
  · intro gone
    rw [made.here] at gone
    cases gone

end Watched

open Watched (Code Plays)
open Session (construct New Made)

/-- As long as the bridge lives its engine is asked what the calls ask for and nothing else; and when it is let go the
engine is stopped, and disconnected unless it panics at that. -/
def Served [Engine ε] (session : Session (Journaled ε) HostFunction) : Prop :=
  ∀ (react : HostFunction → Payload → Code ε Unit) (moves : List (Move (Watched ε) (BridgeTask HostFunction)))
    (h : Host (Watched ε) (BridgeTask HostFunction)), h.world = ⟨session, [], none⟩ →
    (∀ f payload, Plays (react f payload)) → (∀ work, .perform work ∈ moves → Plays work) →
    let after := (h.after (Watched.runTask react) moves).world
    let asked := session.engine.asked ++ after.calls.filterMap ObjectCall.request?
    (after.session.bridge.detached = false → after.session.engine.asked = asked) ∧
    (after.session.bridge.detached = true → ∃ engine, after.left = some engine ∧
      ((Engine.request .stop engine).panic = none → after.session.engine.asked = asked ++ [.stop, .disconnect]) ∧
      ((Engine.request .stop engine).panic ≠ none → after.session.engine.asked = asked ++ [.stop]))

theorem new_served [Engine ε] {c : Credentials} {session : Session (Journaled ε) HostFunction} (new : New c session) :
    Served session := by
  intro react moves h begins plays works after asked
  have fresh : New c h.world.session := by rw [begins]; exact new
  have journal := Watched.life_journal plays works fresh (by rw [begins])
  rw [← new.asked] at journal
  refine ⟨journal.here, fun gone => ?_⟩
  obtain ⟨engine, left, told⟩ := journal.gone gone
  refine ⟨engine, left, fun calm => ?_, fun panics => ?_⟩
  · rw [told, if_pos calm]
  · rw [told, if_neg panics]

end SpokenIntent
