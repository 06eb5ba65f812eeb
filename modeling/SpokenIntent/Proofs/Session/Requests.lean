import SpokenIntent.Proofs.Host.Effects
import SpokenIntent.Session.Opening

/-!
What requests to a bridge come to: the engine is as its reaction leaves it, and what it fired has been
posted. A bridge that is new has no callbacks, so the host alone is told of what it hears; one that is detached
hears nothing, so it posts nothing either. And what its items come to: a delivery is its callback, and a line
where that panicked.
-/

namespace SpokenIntent.Session

variable {ε κ : Type}

theorem fireAll_run (events : List EngineEvent) (e : Effects (Session ε κ) (BridgeTask κ)) :
    fireAll events e = .ok () { e with posted := e.posted ++ events.flatMap e.world.bridge.receive } := by
  induction events generalizing e with
  | nil => simp [fireAll]
  | cons event rest ih => simp [fireAll, fire, Work.bind_apply, ih]

theorem react_run (f : ε → Reaction ε) (e : Effects (Session ε κ) (BridgeTask κ)) :
    let reaction := f e.world.engine
    let left : Effects (Session ε κ) (BridgeTask κ) :=
      { e with
        world := ⟨reaction.engine, e.world.bridge⟩
        posted := e.posted ++ reaction.fired.flatMap e.world.bridge.receive }
    react f e = reaction.panic.elim (.ok () left) fun p => .error p left := by
  intro reaction left
  simp only [react, Work.bind_apply, Work.read_apply, Work.update_apply, fireAll_run]
  cases (f e.world.engine).panic <;> rfl

/-- Whether or not the engine panics. -/
theorem react_leave (f : ε → Reaction ε) (s : Session ε κ) :
    (react f : Act ε κ Unit).leave s =
      ⟨⟨(f s.engine).engine, s.bridge⟩, (f s.engine).fired.flatMap s.bridge.receive, []⟩ := by
  rw [Work.leave, react_run]
  cases (f s.engine).panic <;> rfl

/-! ### A bridge that is set up -/

/-- The last request by which a bridge is set up, as the engine answers it. -/
def firstReaction [Engine ε] (engine : ε) : Reaction ε :=
  let grammar := unheard (Engine.request .grammar) engine
  match grammar.panic with
  | none => Engine.request .connect grammar.engine
  | some _ => grammar

theorem create_receive : (Bridge.create : Bridge κ).receive = Bridge.tellings :=
  funext fun event => List.append_nil (Bridge.tellings event)

theorem connect_run [Engine ε] (engine : ε) (posted : List (Item (BridgeTask κ))) (log : List LogEntry) :
    let first := firstReaction engine
    let left : Effects (Session ε κ) (BridgeTask κ) :=
      ⟨⟨first.engine, Bridge.create⟩, posted ++ first.fired.flatMap Bridge.tellings, log⟩
    connect ⟨⟨engine, Bridge.create⟩, posted, log⟩ = first.panic.elim (.ok () left) fun p => .error p left := by
  simp only [connect, ask, Work.bind_apply, react_run, firstReaction, unheard]
  -- an engine that panics over its grammar is not connected any more
  cases refused : (Engine.request .grammar engine).panic with
  | some p => simp
  | none => simp [create_receive]

section Establish
variable {σ : Type} [Engine ε] {factory : EngineFactory ε} {c : Credentials} {engine : ε}

/-- What a host has of it that a bridge is set up: a bridge, or the panic of its engine, and what it is told. -/
theorem establish_run (made : factory c = .ok engine) (e : Effects σ (BridgeTask κ)) :
    let first := firstReaction engine
    let left : Effects σ (BridgeTask κ) := { e with posted := e.posted ++ first.fired.flatMap Bridge.tellings }
    establish factory c e =
      first.panic.elim (.ok (.ok ⟨first.engine, Bridge.create⟩) left) fun p => .error p left := by
  simp only [establish, made, Work.bind_apply, Work.apart, connect_run]
  cases (firstReaction engine).panic <;> rfl

/-- An engine that goes along in silence leaves nothing but the bridge. -/
theorem establish_silent (made : factory c = .ok engine) (calm : (firstReaction engine).panic = none)
    (silent : (firstReaction engine).fired = []) :
    (establish factory c : Work σ (BridgeTask κ) _) = pure (.ok ⟨(firstReaction engine).engine, Bridge.create⟩) := by
  funext e
  simp [establish_run made, calm, silent]

/-- There is a host with a session exactly if there is an engine which does not panic. -/
theorem openOn_eq_ok {world : Session ε κ → σ} {h : Host σ (BridgeTask κ)} :
    openOn factory c world = .ok h ↔
      ∃ engine, factory c = .ok engine ∧ (firstReaction engine).panic = none ∧
        h = ⟨world ⟨(firstReaction engine).engine, Bridge.create⟩,
          Fifo.empty.append ((firstReaction engine).fired.flatMap Bridge.tellings), 0, [], true⟩ := by
  cases made : factory c with
  | error e => simp [openOn, establish, made, Host.perform]
  | ok engine =>
      -- the host is new, so what waits on it is what was told while the engine was connected
      simp only [openOn, Host.perform, establish_run made, Except.ok.injEq, exists_eq_left']
      cases (firstReaction engine).panic with
      | some p => simp
      | none => simp [Host.absorb, Host.start, eq_comm]

end Establish

/-! ### A bridge that is let go -/

/-- The last request of a teardown, as the engine answers it. -/
def lastReaction [Engine ε] (engine : ε) : Reaction ε :=
  let stopped := Engine.request .stop engine
  match stopped.panic with
  | none => Engine.request .disconnect stopped.engine
  | some _ => stopped

theorem teardown_run [Engine ε] (s : Session ε κ) :
    (teardown : Act ε κ Unit) ⟨s, [], []⟩ =
      .ok () ⟨⟨(lastReaction s.engine).engine, { s.bridge with detached := true }⟩, [],
        (lastReaction s.engine).panic.toList.map fun _ => .teardownFailed⟩ := by
  simp only [teardown, ask, Work.bind_apply, Work.update_apply, Work.attempt_apply, react_run, lastReaction]
  cases stops : (Engine.request .stop s.engine).panic with
  | some p => simp [stops, Bridge.receive]
  | none =>
      simp only [Option.elim_none]
      cases (Engine.request .disconnect (Engine.request .stop s.engine).engine).panic <;> simp [Bridge.receive]

/-! ### Items -/

/-- A delivery comes to what its callback comes to, with a line if that panicked. -/
theorem deliver_perform {σ τ : Type} (tell : Bool → Work σ τ Unit) (invoke : κ → Payload → Work σ τ Unit)
    (scope : Scope) (relay : Relay κ) (payload : Payload) (h : Host σ τ) :
    ∃ panic : Option Panic, h.perform (runTask tell invoke scope (.deliver relay payload)) =
      (.ok (), { (h.perform (invoke relay.callback payload)).2 with
        log := (h.perform (invoke relay.callback payload)).2.log ++
          panic.toList.map (.callbackPanicked relay.name scope.seq) }) := by
  simp only [runTask, Relay.deliver, Host.perform, Work.bind_apply, Work.attempt_apply, Work.pure_apply]
  cases invoke relay.callback payload ⟨h.world, [], []⟩ with
  | ok _ left => exact ⟨none, by simp [Host.absorb]⟩
  | error p left => exact ⟨some p, by simp [Host.absorb]⟩

end SpokenIntent.Session
