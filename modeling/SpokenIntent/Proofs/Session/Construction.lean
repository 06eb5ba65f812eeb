import SpokenIntent.Proofs.Credentials.Checks
import SpokenIntent.Proofs.Session.Objects
import SpokenIntent.Proofs.Session.Teardown

/-!
Making a bridge object. Either there are credentials, an engine is made with them, asked for its grammar and connected;
or nothing of that has been done from where it failed on. An engine that panics meanwhile ends the construction with its
panic. The host is told of the sessions that begin and end by then, and of nothing else.
-/

namespace SpokenIntent

variable {ε : Type} [Engine ε]

/-- A factory that keeps a journal for every engine, of which the creation is the first entry. -/
def Journaled.factory (make : EngineFactory ε) : EngineFactory (Journaled ε) := fun c =>
  (make c).map fun engine => ⟨engine, [.create c.key c.region]⟩

namespace Session

/-- The journal says that the grammar was asked for, and then the connection unless that went wrong; else it is as if
there were none. -/
theorem firstReaction_asked (e : Journaled ε) :
    (firstReaction e).engine.asked =
      e.asked ++ .grammar :: (if (Engine.request .grammar e.engine).panic = none then [.connect] else []) ∧
    (firstReaction e).engine.engine = (firstReaction e.engine).engine ∧
    (firstReaction e).fired = (firstReaction e.engine).fired ∧
    (firstReaction e).panic = (firstReaction e.engine).panic := by
  simp only [firstReaction, unheard, Engine.request, Journaled.request]
  cases (Engine.request .grammar e.engine).panic <;> simp

/-- The panic of a new engine, which is asked for its grammar first. -/
def firstPanic? (engine : ε) : Option Panic :=
  let grammar := Engine.request .grammar engine
  grammar.panic.or (Engine.request .connect grammar.engine).panic

/-- What is heard of a new engine, which is nothing until it is connected. -/
def firstHeard (engine : ε) : List EngineEvent :=
  let grammar := Engine.request .grammar engine
  if grammar.panic = none then (Engine.request .connect grammar.engine).fired else []

theorem firstReaction_eq (engine : ε) :
    (firstReaction engine).panic = firstPanic? engine ∧ (firstReaction engine).fired = firstHeard engine := by
  simp only [firstReaction, unheard, firstPanic?, firstHeard]
  cases (Engine.request .grammar engine).panic <;> simp

/-! ### The outcome -/

/-- A bridge over an engine that has just been connected. -/
def fresh (engine : ε) : Session ε HostFunction := ⟨(firstReaction engine).engine, Bridge.create⟩

section Construct
variable {σ : Type} {factory : EngineFactory ε} {args : List HostValue}

theorem construct_rejected {e : CredentialsError} (rejected : Credentials.ofHostValue args.head? = .error e) :
    (construct factory args : Work σ _ _) = pure (.error (.credentials e)) := by
  rw [construct, rejected]

theorem construct_failed {c : Credentials} {e : EngineError} (given : Credentials.ofHostValue args.head? = .ok c)
    (failed : factory c = .error e) : (construct factory args : Work σ _ _) = pure (.error (.engine e)) := by
  simp only [construct, given, establish, failed, pure_bind]

/-- The first panic ends it. The host takes the tellings of what is heard, and nothing else. -/
theorem construct_perform {c : Credentials} {engine : ε} (given : Credentials.ofHostValue args.head? = .ok c)
    (made : factory c = .ok engine) (h : Host σ (BridgeTask HostFunction)) :
    h.perform (construct factory args) =
      ((firstPanic? engine).elim (.ok (.ok (fresh engine))) .error,
        { h with queue := h.queue.append (if h.alive then (firstHeard engine).flatMap Bridge.tellings else []) }) := by
  obtain ⟨panic, fired⟩ := firstReaction_eq engine
  simp only [Host.perform, construct, given, Work.bind_apply, establish_run made, panic, fired]
  cases firstPanic? engine <;> cases alive : h.alive <;> simp [Host.absorb, fresh, alive, Fifo.append]

/-- A host is left as it was exactly if it hears of no beginning or end of a session. -/
theorem construct_leaves {c : Credentials} {engine : ε} (given : Credentials.ofHostValue args.head? = .ok c)
    (made : factory c = .ok engine) (h : Host σ (BridgeTask HostFunction)) :
    (h.perform (construct factory args)).2 = h ↔
      h.alive = false ∨ ∀ event ∈ firstHeard engine, event.sessionRuns? = none := by
  have quiet (event : EngineEvent) :
      (Bridge.tellings event : List (Item (BridgeTask HostFunction))) = [] ↔ event.sessionRuns? = none := by
    simp [Bridge.tellings]
  rw [construct_perform given made]
  -- a host that is gone takes nothing, whatever it is told
  obtain ⟨world, queue, seq, log, alive⟩ := h
  cases alive <;> simp [Fifo.append_eq_self, quiet]

/-- Three things may happen. -/
theorem construct_cases (factory : EngineFactory ε) (args : List HostValue) :
    (∃ e, Credentials.ofHostValue args.head? = .error e ∧
        (construct factory args : Work σ _ _) = pure (.error (.credentials e))) ∨
      (∃ c e, Credentials.ofHostValue args.head? = .ok c ∧ factory c = .error e ∧
        (construct factory args : Work σ _ _) = pure (.error (.engine e))) ∨
      ∃ c engine, Credentials.ofHostValue args.head? = .ok c ∧ factory c = .ok engine := by
  cases given : Credentials.ofHostValue args.head? with
  | error e => exact .inl ⟨e, rfl, construct_rejected given⟩
  | ok c =>
      cases made : factory c with
      | error e => exact .inr (.inl ⟨c, e, rfl, made, construct_failed given made⟩)
      | ok engine => exact .inr (.inr ⟨c, engine, rfl, made⟩)

/-- The credentials are at fault exactly where the first argument is no credentials, whatever there is to make
engines. -/
theorem construct_credentials (h : Host σ (BridgeTask HostFunction)) (e : CredentialsError) :
    (h.perform (construct factory args)).1 = .ok (.error (.credentials e)) ↔
      Credentials.ofHostValue args.head? = .error e := by
  constructor
  · intro failed
    rcases @construct_cases ε _ σ factory args with
      ⟨e', rejected, told⟩ | ⟨c, e', -, -, told⟩ | ⟨c, engine, given, made⟩
    · rw [told, Host.perform_pure] at failed
      cases failed
      exact rejected
    · rw [told, Host.perform_pure] at failed
      cases failed
    · rw [construct_perform given made] at failed
      cases panics : firstPanic? engine <;> (rw [panics] at failed; cases failed)
  · intro rejected
    rw [construct_rejected rejected, Host.perform_pure]

end Construct

/-- A bridge as it is made with credentials, of which nobody has asked anything yet. -/
structure New (c : Credentials) (s : Session (Journaled ε) HostFunction) : Prop where
  asked : s.engine.asked = [.create c.key c.region, .grammar, .connect]
  slots : ∀ channel, (s.bridge.slots channel).current = none
  running : s.bridge.running = false
  here : s.bridge.detached = false

/-- What a construction comes to when there are credentials and an engine for them; `session` is the bridge as it is
then, with the journal of its engine. -/
structure Made (make : EngineFactory ε) (args : List HostValue) (c : Credentials) (engine : ε)
    (session : Session (Journaled ε) HostFunction) : Prop where
  /-- The engine is connected to a bridge that nobody else has, and that is all. -/
  connects : ∀ {σ : Type}, (construct (Journaled.factory make) args : Work σ _ _) = do
    pure (.ok (← Work.apart ⟨⟨engine, [.create c.key c.region]⟩, Bridge.create⟩ connect))
  left : (connect.leave ⟨⟨engine, [.create c.key c.region]⟩, Bridge.create⟩).world = session
  asked : session.engine.asked = [.create c.key c.region, .grammar] ++
    if (Engine.request .grammar engine).panic = none then [.connect] else []
  new : firstPanic? engine = none → New c session
  performed : ∀ {σ : Type} (h : Host σ (BridgeTask HostFunction)), h.perform (construct make args) =
    ((firstPanic? engine).elim (.ok (.ok ⟨session.engine.engine, session.bridge⟩)) .error,
      { h with queue := h.queue.append (if h.alive then (firstHeard engine).flatMap Bridge.tellings else []) })
  journaled : ∀ {σ : Type} (h : Host σ (BridgeTask HostFunction)),
    h.perform (construct (Journaled.factory make) args) =
      ((firstPanic? engine).elim (.ok (.ok session)) .error, (h.perform (construct make args)).2)
  undisturbed : ∀ {σ : Type} (h : Host σ (BridgeTask HostFunction)), (h.perform (construct make args)).2 = h ↔
    h.alive = false ∨ ∀ event ∈ firstHeard engine, event.sessionRuns? = none

theorem construct_made {make : EngineFactory ε} {args : List HostValue} {c : Credentials} {engine : ε}
    (given : Credentials.ofHostValue args.head? = .ok c) (made : make c = .ok engine) :
    ∃ session, Made make args c engine session := by
  let begun : Journaled ε := ⟨engine, [.create c.key c.region]⟩
  have journal : Journaled.factory make c = .ok begun := by
    rw [Journaled.factory, made]
    rfl
  have left : (connect.leave ⟨begun, Bridge.create⟩).world = fresh begun := by
    rw [Work.leave, connect_run]
    cases (firstReaction begun).panic <;> rfl
  -- the engine does the same with a journal and without
  obtain ⟨asked, inner, fired, panic⟩ := firstReaction_asked begun
  obtain ⟨panicAs, firedAs⟩ := firstReaction_eq begun
  obtain ⟨panicAs', firedAs'⟩ := firstReaction_eq engine
  have samePanic : firstPanic? begun = firstPanic? engine := by rw [← panicAs, panic, panicAs']
  have sameHeard : firstHeard begun = firstHeard engine := by rw [← firedAs, fired, firedAs']
  refine ⟨fresh begun, ?_, left, asked, ?_, ?_, ?_, construct_leaves given made⟩
  · intro σ
    simp only [construct, given, establish, journal, bind_assoc, pure_bind]
    rfl
  · intro calm
    have granted : (Engine.request .grammar engine).panic = none := (Option.or_eq_none_iff.mp calm).1
    refine ⟨?_, fun _ => rfl, rfl, rfl⟩
    simpa [begun, granted, fresh] using asked
  · intro σ h
    have plain : fresh engine = ⟨(fresh begun).engine.engine, (fresh begun).bridge⟩ := by
      rw [fresh, fresh, inner]
    rw [construct_perform given made, plain]
  · intro σ h
    rw [construct_perform given journal, construct_perform given made, samePanic, sameHeard]

end Session

namespace ObjectScript

/-- Whatever comes of it, a construction on the stage leaves the queue as it was; and where it fails, everything. -/
theorem construct_perform (h : Play) (args : List HostValue) :
    (h.perform (construct args)).2.queue = h.queue ∧
      ∀ e, Credentials.ofHostValue args.head? = .error e →
        h.perform (construct args) = (.ok (.failed (.credentials e)), h) := by
  constructor
  · rw [Host.perform_eq]
    rcases construct_leave args h.world with failed | ⟨used, session, lines, -, made⟩
    · simp [failed, Host.accepts, Fifo.append]
    · simp [made, Host.accepts, Fifo.append]
  · intro e rejected
    have ran : construct args ⟨h.world, [], []⟩ = .ok (.failed (.credentials e)) ⟨h.world, [], []⟩ := by
      simp only [construct, Work.bind_apply, Work.read_apply, Session.construct_rejected rejected, Work.within_pure,
        Work.pure_apply]
    rw [← Host.perform_pure h (Reply.failed (.credentials e)), Host.perform, ran]
    rfl

end ObjectScript

end SpokenIntent
