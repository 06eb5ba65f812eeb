import SpokenIntent.Proofs.Session.Moment
import SpokenIntent.Proofs.Session.Requests

/-!
Letting a bridge go. Its engine is asked to stop and then to disconnect, in one guarded piece, so an
engine that panics when it is stopped is not asked to disconnect. It keeps the receiver that it had; the
bridge is detached all the same, so what the receiver hears comes to nothing.
-/

namespace SpokenIntent

variable {ε κ : Type}

/-- An engine of any kind, with what it has been asked. -/
structure Journaled (ε : Type) where
  engine : ε
  asked : List Request

namespace Journaled

def request [Engine ε] (r : Request) (e : Journaled ε) : Reaction (Journaled ε) :=
  let reaction := Engine.request r e.engine
  ⟨⟨reaction.engine, e.asked ++ [r]⟩, reaction.fired, reaction.panic⟩

instance [Engine ε] : Engine (Journaled ε) := ⟨request⟩

end Journaled

namespace Session

theorem lastReaction_asked [Engine ε] (e : Journaled ε) :
    (lastReaction e).engine.asked =
      e.asked ++ .stop :: (if (Engine.request .stop e.engine).panic = none then [.disconnect] else []) ∧
    (lastReaction e).engine.engine = (lastReaction e.engine).engine := by
  simp only [lastReaction, Engine.request, Journaled.request]
  cases (Engine.request .stop e.engine).panic <;> simp

end Session

namespace BridgeScript

/-! ### The receiver of a recorder -/

/-- An engine has a receiver as long as the bridge is there. -/
def Attached (s : Stage κ) : Prop :=
  s.session.bridge.detached = false → s.session.engine.connected = true

theorem request_attached (r : Request) (stays : r ≠ .disconnect) (s : Stage κ) (attached : Attached s) :
    Attached ((withBridge (do Session.ask r; pure .nothing) : StageWork κ Reply).leave s).world := by
  have kept : (Recorder.request r s.session.engine).engine.connected = true ∨
      s.session.engine.connected = false := by
    cases connected : s.session.engine.connected with
    | false => exact .inr rfl
    | true => cases r <;> simp_all [Recorder.request]
  simp only [Work.leave, withBridge, Work.bind_apply, Work.read_apply]
  cases here : s.session.bridge.detached with
  | true => simp [Attached, here]
  | false =>
      have connected := kept.resolve_right (by simp [attached here])
      simp only [Bool.false_eq_true, ↓reduceIte, onSession, Work.within, Work.bind_apply, ask_run]
      cases s.session.engine.refuses r <;> exact fun _ => connected

theorem act_attached (a : Act κ) (s : Stage κ) (attached : Attached s) : Attached (a.run.leave s).world := by
  cases a with
  | start => exact request_attached .start (by simp) s attached
  | stop => exact request_attached .stop (by simp) s attached
  | addIntent phrase intentId => exact request_attached (.addIntent phrase intentId) (by simp) s attached
  | addPhrase phrase => exact request_attached (.addPhrase phrase) (by simp) s attached
  | letGo =>
      cases here : s.session.bridge.detached with
      | true => simp [Act.run, Work.leave, Work.bind_apply, here, Attached]
      | false =>
          -- a bridge that is gone owes nothing
          obtain ⟨engine, lines, ran⟩ := letGo_run s here
          simp only [Work.leave, ran]
          exact fun still => by cases still
  | isRunning =>
      simp only [Act.run, Work.leave, withBridge, Work.bind_apply, Work.read_apply]
      cases s.session.bridge.detached <;> exact attached
  | on channel callback =>
      simp only [Act.run, Work.leave, withBridge, Work.bind_apply, Work.read_apply]
      cases s.session.bridge.detached <;> exact attached
  | fire event kept =>
      simp only [Act.run, Work.leave, Work.bind_apply, Work.read_apply]
      cases kept || s.session.engine.connected <;> exact attached
  | requests => exact attached
  | isConnected => exact attached

theorem open_attached {factory : EngineFactory Recorder} {credentials : Credentials} {h : Play κ}
    (made : open? factory credentials = .ok h) : Attached h.world := by
  obtain ⟨engine, connected, rfl⟩ := open_eq_start made
  exact fun _ => connected

theorem moment_attached {nests : Bool} {h : Play κ} {under : List (Invocation κ)} (m : Moment nests h under) :
    Attached h.world := by
  induction m with
  | opened made => exact open_attached made
  | act m inside a ih =>
      rw [Host.perform_eq, perform_leave]
      exact act_attached a _ ih
  -- the host is told and callbacks are called without the engine having any part in it
  | tell m free front ih => exact ih
  | call m free front ih => exact ih
  | finish m panic ih => exact ih

/-- A bridge that is let go is torn down; what waits, waits on. -/
theorem letGo_perform (h : Play κ) (inside : Bool) (here : h.world.session.bridge.detached = false) :
    let left := (Session.teardown : Session.Act Recorder κ Unit).leave h.world.session
    h.perform (Act.letGo.perform inside) =
      (.ok (.flag true), { h with
        world := ⟨left.world, h.world.history ++ [.acted inside .letGo (.flag true)]⟩
        log := h.log ++ left.log }) := by
  obtain ⟨world, queue, seq, log, alive⟩ := h
  simp only at here
  simp only [Host.perform, Act.perform, Act.run, Work.leave, Work.bind_apply, Work.read_apply, here,
    Bool.false_eq_true, ↓reduceIte, onSession, Work.within, Session.teardown_run]
  cases alive <;> simp [Host.absorb, Fifo.append, Stage.note, Stage.setSession]

theorem letGo_engine (h : Play κ) (inside : Bool) (here : h.world.session.bridge.detached = false) :
    (h.perform (Act.letGo.perform inside)).2.world.session.engine =
      (Session.lastReaction h.world.session.engine).engine := by
  rw [letGo_perform h inside here, Work.leave, Session.teardown_run]

/-- Whatever the engine, and whatever state the bridge is in as it is let go: the engine is asked to stop,
and then to disconnect exactly if it did not panic at being stopped. So an engine that forgets its receiver
when it is disconnected, as a panic then does not keep it from, has one afterwards only if it panics at
being stopped and does not forget it of itself. -/
theorem teardown_asked [Engine ε] (s : Session (Journaled ε) κ) :
    let stopped := Engine.request .stop s.engine.engine
    let after := (Session.teardown.leave s).world.engine
    (after.asked = s.engine.asked ++ [.stop, .disconnect] ↔ stopped.panic = none) ∧
    (after.asked = s.engine.asked ++ [.stop] ↔ stopped.panic ≠ none) ∧
    ∀ holds : ε → Prop, (∀ e, ¬ holds (Engine.request .disconnect e).engine) →
      (holds after.engine ↔ stopped.panic ≠ none ∧ holds stopped.engine) := by
  intro stopped after
  have left : after = (Session.lastReaction s.engine).engine := by
    simp only [after, Work.leave, Session.teardown_run]
  obtain ⟨asked, inner⟩ := Session.lastReaction_asked s.engine
  rw [left, asked, inner]
  refine ⟨by simp [stopped], by simp [stopped], ?_⟩
  intro holds forgets
  -- the last reaction is the one to the stop, or the one to the disconnect
  simp only [Session.lastReaction, stopped]
  cases panics : (Engine.request .stop s.engine.engine).panic with
  | none => simp [forgets]
  | some p => simp

/-- A recorder forgets its receiver of nothing but a disconnect. -/
theorem letGo_asked {nests : Bool} {h : Play κ} {under : List (Invocation κ)} (m : Moment nests h under)
    (inside : Bool) (here : h.world.session.bridge.detached = false) :
    let engine := h.world.session.engine
    let after := (h.perform (Act.letGo.perform inside)).2.world.session.engine
    (after.requests = engine.requests ++ [.stop, .disconnect] ↔ engine.refuses .stop = none) ∧
    (after.connected = false ↔ engine.refuses .stop = none) := by
  have attached := moment_attached m here
  simp only [letGo_engine h inside here, Session.lastReaction, Engine.request, Recorder.request, attached]
  cases h.world.session.engine.refuses .stop <;> simp

/-- The receiver is let go of exactly if the engine does not panic at being stopped: of every engine, in
every state, what it is asked for; of one that forgets its receiver when it is disconnected, the receiver too;
and of an engine that does nothing of itself both, at every moment at which there is a bridge. -/
theorem teardown_releases :
    (∀ {ε : Type} [Engine ε] (s : Session (Journaled ε) κ),
      let stopped := Engine.request .stop s.engine.engine
      let after := (Session.teardown.leave s).world.engine
      (after.asked = s.engine.asked ++ [.stop, .disconnect] ↔ stopped.panic = none) ∧
      (after.asked = s.engine.asked ++ [.stop] ↔ stopped.panic ≠ none) ∧
      ∀ holds : ε → Prop, (∀ e, ¬ holds (Engine.request .disconnect e).engine) →
        (holds after.engine ↔ stopped.panic ≠ none ∧ holds stopped.engine)) ∧
    (∀ {nests : Bool} {h : Play κ} {under : List (Invocation κ)}, Moment nests h under → ∀ inside : Bool,
      h.world.session.bridge.detached = false →
      let engine := h.world.session.engine
      let after := (h.perform (Act.letGo.perform inside)).2.world.session.engine
      (after.requests = engine.requests ++ [.stop, .disconnect] ↔ engine.refuses .stop = none) ∧
      (after.connected = false ↔ engine.refuses .stop = none)) :=
  ⟨teardown_asked, letGo_asked⟩

/-- The play of a bridge that was set up over a recorder. -/
def opening (refuses : Request → Option Panic) : Play Nat :=
  Host.start ⟨⟨⟨[.create "k" "r", .grammar, .connect], true, refuses⟩, Bridge.create⟩, []⟩

theorem opening_opened {refuses : Request → Option Panic} (grammar : refuses .grammar = none)
    (connect : refuses .connect = none) :
    open? (Recorder.factory refuses) ⟨"k", "r", by decide, by decide⟩ = .ok (opening refuses) := by
  refine Session.openOn_eq_ok.mpr ⟨_, rfl, ?_⟩
  simp only [Session.firstReaction, Session.unheard, Engine.request, Recorder.request, grammar, connect, true_and]
  rfl

/-- An engine that panics at being disconnected is without its receiver all the same. -/
theorem reluctant_engine_released :
    let reluctant : Request → Option Panic := fun r => if r = .disconnect then some (.text "no") else none
    let recorder : Recorder := ⟨[], true, reluctant⟩
    let s : Session (Journaled Recorder) Nat := ⟨⟨recorder, []⟩, Bridge.create⟩
    let after := ((opening reluctant).perform (Act.letGo.perform false)).2.world.session.engine
    (Session.teardown.leave s).world.engine.asked = [.stop, .disconnect] ∧
    ¬ (Session.teardown.leave s).world.engine.engine.connected = true ∧
    after.requests = [.create "k" "r", .grammar, .connect, .stop, .disconnect] ∧
    after.connected = false := by
  intro reluctant recorder s after
  have m : Moment false (opening reluctant) [] := .opened (opening_opened rfl rfl)
  have forgets (e : Recorder) : ¬ (Engine.request .disconnect e).engine.connected = true := by
    simp [Engine.request, Recorder.request]
  obtain ⟨asked, -, held⟩ := teardown_releases.1 s
  obtain ⟨requests, connected⟩ := teardown_releases.2 m false rfl
  refine ⟨asked.mpr rfl, fun holds => ?_, requests.mpr rfl, connected.mpr rfl⟩
  obtain ⟨panics, -⟩ := (held (fun e => e.connected = true) forgets).mp holds
  exact panics rfl

/-- An engine that panics at being stopped is not asked to disconnect, and keeps its receiver. -/
theorem stubborn_engine_holds_on :
    let stubborn : Request → Option Panic := fun r => if r = .stop then some (.text "no") else none
    let after := ((opening stubborn).perform (Act.letGo.perform false)).2.world.session.engine
    Moment false (opening stubborn) [] ∧
    after.requests = [.create "k" "r", .grammar, .connect, .stop] ∧
    after.connected = true := by
  intro stubborn after
  exact ⟨.opened (opening_opened rfl rfl), by decide +kernel, by decide +kernel⟩

end BridgeScript

end SpokenIntent
