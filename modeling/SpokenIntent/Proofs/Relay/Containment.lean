import SpokenIntent.Proofs.Host.Chronicle
import SpokenIntent.Relay.Script

/-!
How deliveries through relays end. A delivery runs its builder and then, if that has made a payload,
the callback of the relay it was asked for through; whatever goes wrong on the way is one line of the
log. The account is kept over whole runs, in which any code may set, clear, keep and call relays.
-/

namespace SpokenIntent.RelayScript

variable {κ P : Type}

/-! ### What acts do -/

/-- A delivery that waits or has run, by its relay and its builder. -/
def Task.delivery? : Task κ → Option (Relay κ × κ)
  | .deliver relay builder => some (relay, builder)
  | .code _ => none

def deliveries (items : List (Item (Task κ))) : List (Relay κ × κ) :=
  items.filterMap fun item => item.task.delivery?

namespace Happening

def asked? : Happening κ P → Option (Relay κ × κ)
  | .asked relay build => some (relay, build)
  | _ => none

/-- A piece of code that runs, as against a delivery that is asked for. -/
def isRun : Happening κ P → Bool
  | .asked _ _ => false
  | _ => true

end Happening

namespace Stage

def asked (s : Stage κ P) : List (Relay κ × κ) := s.history.filterMap Happening.asked?

def runs (s : Stage κ P) : List (Happening κ P) := s.history.filter Happening.isRun

/-- The stage after some acts. -/
def afterActs (acts : List (Act κ)) (s : Stage κ P) : Stage κ P :=
  acts.foldl (fun s act => (act.run.leave s).world) s

end Stage

/-- An act ends well, logs nothing, and runs no code. It posts a delivery exactly when it asks for one. -/
theorem act_run (a : Act κ) (e : Effects (Stage κ P) (Task κ)) :
    (∃ reply, a.run e =
      .ok reply ⟨(a.run.leave e.world).world, e.posted ++ (a.run.leave e.world).posted, e.log⟩) ∧
    (a.run.leave e.world).world.asked = e.world.asked ++ deliveries (a.run.leave e.world).posted ∧
    (a.run.leave e.world).world.runs = e.world.runs := by
  -- only two acts hang on what the stage has: whether there is such a relay
  cases a with
  | hold slot as =>
      simp only [Act.run, Work.leave, Work.bind_apply, Work.read_apply]
      cases e.world.relay? (.slot slot) <;>
        simp [Work.map_apply, deliveries, Stage.asked, Stage.runs]
  | call target builder =>
      simp only [Act.run, Work.leave, Work.bind_apply, Work.read_apply]
      cases e.world.relay? target <;>
        simp [Work.map_apply, Work.bind_apply, deliveries, Task.delivery?, Stage.asked, Stage.runs,
          Stage.note, Happening.asked?, Happening.isRun]
  | _ =>
      simp [Act.run, Work.leave, Work.bind_apply, Work.map_apply, deliveries, Task.delivery?,
        Stage.asked, Stage.runs, Stage.updateSlot]

theorem deliveries_append (left right : List (Item (Task κ))) :
    deliveries (left ++ right) = deliveries left ++ deliveries right := by
  simp [deliveries]

theorem runActs_run (acts : List (Act κ)) (e : Effects (Stage κ P) (Task κ)) :
    ∃ items, runActs acts e = .ok () ⟨e.world.afterActs acts, e.posted ++ items, e.log⟩ ∧
      (e.world.afterActs acts).asked = e.world.asked ++ deliveries items ∧
      (e.world.afterActs acts).runs = e.world.runs := by
  induction acts generalizing e with
  | nil => exact ⟨[], by simp [runActs, Stage.afterActs], by simp [Stage.afterActs, deliveries], rfl⟩
  | cons act rest ih =>
      -- acts do not panic, so the rest follows in any case
      obtain ⟨⟨reply, ran⟩, asked, runs⟩ := act_run act e
      let items := (act.run.leave e.world).posted
      obtain ⟨more, tail, tailAsked, tailRuns⟩ :=
        ih ⟨(act.run.leave e.world).world, e.posted ++ items, e.log⟩
      refine ⟨items ++ more, ?_, ?_, ?_⟩
      · rw [runActs, Work.bind_apply, ran]
        simpa [Stage.afterActs] using tail
      · rw [deliveries_append, ← List.append_assoc, ← asked]
        exact tailAsked
      · rw [← runs]
        exact tailRuns

/-! ### How an item ends -/

/-- How a delivery ends: the callback comes through, there is no payload, or the callback panics. -/
inductive Ending (P : Type) where
  | completed (payload : P)
  | dropped (error : PayloadError)
  | broken (payload : P) (panic : Panic)

namespace Ending

/-- The payload that the callback is given, if it is called. -/
def payload? : Ending P → Option P
  | .completed payload => some payload
  | .dropped _ => none
  | .broken payload _ => some payload

/-- What the log is told of a delivery through a relay of some name. -/
def lines (relay : String) (seq : UInt64) : Ending P → List LogEntry
  | .completed _ => []
  | .dropped error => [.eventDropped relay seq error]
  | .broken _ panic => [.callbackPanicked relay seq panic]

end Ending

namespace Conduct

/-- What becomes of a builder that finds the stage `s`: its result, or its panic. -/
def built (code : Conduct κ P) (builder : κ) (scope : Scope) (s : Stage κ P) :
    Except Panic (Except PayloadError P) :=
  let (script, outcome) := code.builder (s.note (.builder builder scope)) builder scope
  match script.panic with
  | none => .ok outcome
  | some p => .error p

def afterBuilder (code : Conduct κ P) (builder : κ) (scope : Scope) (s : Stage κ P) : Stage κ P :=
  let s := s.note (.builder builder scope)
  s.afterActs (code.builder s builder scope).1.acts

def called (code : Conduct κ P) (callback : κ) (payload : P) (s : Stage κ P) : Script κ :=
  code.callback (s.note (.callback callback payload)) callback payload

def ending (code : Conduct κ P) (relay : Relay κ) (builder : κ) (scope : Scope) (s : Stage κ P) :
    Ending P :=
  match code.built builder scope s with
  | .error p => .dropped (.panicked p.message)
  | .ok (.error error) => .dropped error
  | .ok (.ok payload) =>
    match (code.called relay.callback payload (code.afterBuilder builder scope s)).panic with
    | none => .completed payload
    | some p => .broken payload p

/-- The code that an item runs, in order. -/
def runs (code : Conduct κ P) (scope : Scope) (s : Stage κ P) : Task κ → List (Happening κ P)
  | .deliver relay builder =>
    .builder builder scope ::
      (code.ending relay builder scope s).payload?.toList.map (.callback relay.callback)
  | .code task => [.task task scope]

/-- What an item has the log told. -/
def lines (code : Conduct κ P) (scope : Scope) (s : Stage κ P) : Task κ → List LogEntry
  | .deliver relay builder => (code.ending relay builder scope s).lines relay.name scope.seq
  | .code task =>
    (code.task (s.note (.task task scope)) task scope).panic.toList.map
      (.itemPanicked scope.origin scope.seq)

end Conduct

theorem note_run (s : Stage κ P) (happening : Happening κ P) (run : happening.isRun = true) :
    (s.note happening).asked = s.asked ∧ (s.note happening).runs = s.runs ++ [happening] := by
  cases happening with
  | asked relay builder => cases run
  | _ => simp [Stage.asked, Stage.runs, Stage.note, Happening.asked?, Happening.isRun]

theorem script_run (script : Script κ) (s : Stage κ P) (posted : List (Item (Task κ))) :
    ∃ items,
      (script.run ⟨s, posted, []⟩ =
        match script.panic with
        | none => .ok () ⟨s.afterActs script.acts, posted ++ items, []⟩
        | some p => .error p ⟨s.afterActs script.acts, posted ++ items, []⟩) ∧
      (s.afterActs script.acts).asked = s.asked ++ deliveries items ∧
      (s.afterActs script.acts).runs = s.runs := by
  obtain ⟨items, ran, asked, runs⟩ := runActs_run script.acts ⟨s, posted, []⟩
  refine ⟨items, ?_, asked, runs⟩
  rw [Script.run, Work.bind_apply, ran]
  cases script.panic <;> rfl

theorem builder_run (code : Conduct κ P) (builder : κ) (scope : Scope) (s : Stage κ P) :
    ∃ items,
      (code.runBuilder builder scope).attempt ⟨s, [], []⟩ =
        .ok (code.built builder scope s) ⟨code.afterBuilder builder scope s, items, []⟩ ∧
      (code.afterBuilder builder scope s).asked = s.asked ++ deliveries items ∧
      (code.afterBuilder builder scope s).runs = s.runs ++ [.builder builder scope] := by
  obtain ⟨noteAsked, noteRuns⟩ := note_run s (.builder builder scope) rfl
  obtain ⟨items, ran, asked, runs⟩ := script_run
    (code.builder (s.note (.builder builder scope)) builder scope).1 (s.note (.builder builder scope)) []
  refine ⟨items, ?_, noteAsked ▸ asked, noteRuns ▸ runs⟩
  simp only [Work.attempt_apply, Conduct.runBuilder, Work.bind_apply, Work.update_apply,
    Work.read_apply, Conduct.built, Conduct.afterBuilder]
  rw [ran]
  cases (code.builder (s.note (.builder builder scope)) builder scope).1.panic <;> rfl

theorem callback_run (code : Conduct κ P) (callback : κ) (payload : P) (s : Stage κ P)
    (posted : List (Item (Task κ))) :
    ∃ after items,
      (code.runCallback callback payload).attempt ⟨s, posted, []⟩ =
        .ok ((code.called callback payload s).panic.elim (.ok ()) .error) ⟨after, posted ++ items, []⟩ ∧
      after.asked = s.asked ++ deliveries items ∧
      after.runs = s.runs ++ [.callback callback payload] := by
  obtain ⟨noteAsked, noteRuns⟩ := note_run s (.callback callback payload) rfl
  obtain ⟨items, ran, asked, runs⟩ := script_run
    (code.called callback payload s) (s.note (.callback callback payload)) posted
  refine ⟨_, items, ?_, noteAsked ▸ asked, noteRuns ▸ runs⟩
  simp only [Work.attempt_apply, Conduct.runCallback, Work.bind_apply, Work.update_apply, Work.read_apply]
  rw [Conduct.called] at ran ⊢
  rw [ran]
  cases (code.callback (s.note (.callback callback payload)) callback payload).panic <;> rfl

/-- A delivery never panics itself. It runs the code, and has the log told, what its ending says. -/
theorem deliver_run (code : Conduct κ P) (relay : Relay κ) (builder : κ) (scope : Scope) (s : Stage κ P) :
    ∃ after items,
      Task.run code scope (.deliver relay builder) ⟨s, [], []⟩ =
        .ok () ⟨after, items, code.lines scope s (.deliver relay builder)⟩ ∧
      after.asked = s.asked ++ deliveries items ∧
      after.runs = s.runs ++ code.runs scope s (.deliver relay builder) := by
  obtain ⟨items, ran, asked, runs⟩ := builder_run code builder scope s
  simp only [Task.run, Relay.deliver, Work.bind_apply, ran, Conduct.lines, Conduct.runs, Conduct.ending]
  -- the callback is reached in one of the three ways in which a builder comes back
  cases code.built builder scope s with
  | error p => exact ⟨_, items, rfl, asked, runs⟩
  | ok outcome =>
      cases outcome with
      | error error => exact ⟨_, items, rfl, asked, runs⟩
      | ok payload =>
          obtain ⟨after, more, called, moreAsked, moreRuns⟩ :=
            callback_run code relay.callback payload (code.afterBuilder builder scope s) items
          simp only [Work.bind_apply, called]
          rw [asked, List.append_assoc, ← deliveries_append] at moreAsked
          rw [runs, List.append_assoc] at moreRuns
          cases (code.called relay.callback payload (code.afterBuilder builder scope s)).panic with
          | none => exact ⟨after, items ++ more, rfl, moreAsked, moreRuns⟩
          | some p => exact ⟨after, items ++ more, rfl, moreAsked, moreRuns⟩

theorem code_run (code : Conduct κ P) (task : κ) (scope : Scope) (s : Stage κ P) :
    ∃ after items,
      (Task.run code scope (.code task) ⟨s, [], []⟩ =
        match (code.task (s.note (.task task scope)) task scope).panic with
        | none => .ok () ⟨after, items, []⟩
        | some p => .error p ⟨after, items, []⟩) ∧
      after.asked = s.asked ++ deliveries items ∧
      after.runs = s.runs ++ [.task task scope] := by
  obtain ⟨noteAsked, noteRuns⟩ := note_run s (.task task scope) rfl
  obtain ⟨items, ran, asked, runs⟩ := script_run
    (code.task (s.note (.task task scope)) task scope) (s.note (.task task scope)) []
  refine ⟨_, items, ?_, noteAsked ▸ asked, noteRuns ▸ runs⟩
  simp only [Task.run, Conduct.runTask, Work.bind_apply, Work.update_apply, Work.read_apply]
  exact ran

/-- What an item leaves: only a task that panics has the host log it. -/
theorem item_run (code : Conduct κ P) (scope : Scope) (task : Task κ) (s : Stage κ P) :
    let work := Task.run code scope task
    (work.leave s).log ++ (work.panic? s).toList.map (.itemPanicked scope.origin scope.seq) =
      code.lines scope s task ∧
    (work.leave s).world.asked = s.asked ++ deliveries (work.leave s).posted ∧
    (work.leave s).world.runs = s.runs ++ code.runs scope s task := by
  cases task with
  | deliver relay builder =>
      obtain ⟨after, items, ran, asked, runs⟩ := deliver_run code relay builder scope s
      simp [Work.leave, Work.panic?, ran, asked, runs]
  | code task =>
      obtain ⟨after, items, ran, asked, runs⟩ := code_run code task scope s
      simp only [Work.leave, Work.panic?, ran, Conduct.lines, Conduct.runs]
      cases (code.task (s.note (.task task scope)) task scope).panic <;> simp [asked, runs]

/-! ### Whole runs -/

/-- What is done with relays and their host from outside. -/
inductive Deed (κ P : Type) where
  | act (a : Act κ)
  | drain (d : Drain (Stage κ P))
  | close

def Deed.move : Deed κ P → Move (Stage κ P) (Task κ)
  | .act a => .perform a.run.ignored
  | .drain d => .drain d
  | .close => .close

/-- The account of all deliveries: each that was asked for is an item that was posted, each item that
has run is told by what it ran and by what it had the log told. -/
structure Accounted (code : Conduct κ P) (c : Chronicle (Stage κ P) (Task κ)) : Prop where
  asked : c.host.alive = true → c.host.world.asked = deliveries c.posted
  runs : c.host.world.runs = c.turns.flatMap fun turn => code.runs turn.scope turn.before turn.item.task
  log : c.host.log = c.turns.flatMap fun turn => code.lines turn.scope turn.before turn.item.task

theorem act_accounted (code : Conduct κ P) (a : Act κ) (c : Chronicle (Stage κ P) (Task κ))
    (holds : Accounted code c) : Accounted code (c.perform a.run.ignored) := by
  obtain ⟨⟨reply, ran⟩, asked, runs⟩ := act_run a ⟨c.host.world, [], []⟩
  have silent : (a.run.leave c.host.world).log = [] := by
    rw [Work.leave, ran]
  simp only [Chronicle.perform, Host.perform_eq, Work.ignored_leave]
  refine ⟨fun living => ?_, ?_, ?_⟩
  · simp only at living
    simp only [Host.accepts, living, if_true, deliveries_append, ← holds.asked living]
    exact asked
  · exact runs.trans holds.runs
  · simpa [silent] using holds.log

theorem step_accounted (code : Conduct κ P) (c : Chronicle (Stage κ P) (Task κ))
    (holds : Accounted code c) : Accounted code (c.step (Task.run code)) := by
  cases front : c.host.queue.pop? with
  | none => simpa [Chronicle.step, front] using holds
  | some pair =>
      obtain ⟨item, rest⟩ := pair
      obtain ⟨log, asked, runs⟩ := item_run code (c.host.scopeOf item) item.task c.host.world
      simp only [Chronicle.step, front, Host.execute_eq]
      refine ⟨fun living => ?_, ?_, ?_⟩
      · simp only at living
        simp only [Host.accepts, living, if_true, deliveries_append, ← holds.asked living]
        exact asked
      · rw [List.flatMap_append, ← holds.runs, List.flatMap_singleton]
        exact runs
      · rw [List.flatMap_append, ← holds.log, List.flatMap_singleton]
        exact congrArg (c.host.log ++ ·) log

theorem deeds_accounted (code : Conduct κ P) (deeds : List (Deed κ P)) (c : Chronicle (Stage κ P) (Task κ))
    (holds : Accounted code c) : Accounted code (c.after (Task.run code) (deeds.map Deed.move)) := by
  induction deeds generalizing c with
  | nil => exact holds
  | cons deed rest ih =>
      apply ih
      cases deed with
      | act a => exact act_accounted code a c holds
      | drain d => exact Chronicle.drain_invariant _ (step_accounted code) d c holds
      | close =>
          refine ⟨fun living => ?_, holds.runs, holds.log⟩
          cases living

theorem start_accounted (code : Conduct κ P) (names : List String) :
    Accounted code (Chronicle.start (Stage.start names)) :=
  ⟨fun _ => rfl, rfl, rfl⟩

/-- The callback is called with a payload exactly when the builder has made it. -/
theorem ending_payload (code : Conduct κ P) (relay : Relay κ) (builder : κ) (scope : Scope)
    (s : Stage κ P) (payload : P) :
    (code.ending relay builder scope s).payload? = some payload ↔
      code.built builder scope s = .ok (.ok payload) := by
  simp only [Conduct.ending]
  cases code.built builder scope s with
  | error p => simp [Ending.payload?]
  | ok outcome =>
      cases outcome with
      | error error => simp [Ending.payload?]
      | ok made =>
          cases ended : (code.called relay.callback made (code.afterBuilder builder scope s)).panic <;>
            simp [Ending.payload?, ended]

theorem deliver_lines (code : Conduct κ P) (relay : Relay κ) (builder : κ) (scope : Scope) (s : Stage κ P)
    (origin : String) (seq : UInt64) (p : Panic) :
    .itemPanicked origin seq p ∉ code.lines scope s (.deliver relay builder) := by
  simp only [Conduct.lines]
  cases code.ending relay builder scope s <;> simp [Ending.lines]

/-- Whatever code there is and whatever is done, nested or not:
a call of a relay posts one item, which keeps that relay and its builder;
the deliveries that have run, then those that wait, are those asked for, in order;
what has run is, turn by turn, the builder and then, with the payload it has made, if it has made one,
the callback of the relay that was called;
and what was logged is, turn by turn, nothing, or the one line of a delivery that was dropped or whose
callback panicked, or the one line of a task that panicked. -/
theorem deliveries_contained (code : Conduct κ P) (names : List String) (deeds : List (Deed κ P)) :
    let moves := deeds.map Deed.move
    let h := (Host.start (Stage.start names)).after (Task.run code) moves
    let c := (Chronicle.start (Stage.start names)).after (Task.run code) moves
    c.host = h ∧
    (∀ target builder, ((Act.call target builder).run.leave h.world).posted =
      (h.world.relay? target).toList.map fun relay => ⟨relay.name, .deliver relay builder⟩) ∧
    (h.alive = true →
      deliveries (c.turns.map Turn.item) ++ deliveries h.queue.toList = h.world.asked) ∧
    h.world.runs = c.turns.flatMap (fun turn => code.runs turn.scope turn.before turn.item.task) ∧
    (∀ turn ∈ c.turns, ∀ relay builder, turn.item.task = .deliver relay builder → ∀ payload,
      (code.ending relay builder turn.scope turn.before).payload? = some payload ↔
        code.built builder turn.scope turn.before = .ok (.ok payload)) ∧
    h.log = c.turns.flatMap (fun turn => code.lines turn.scope turn.before turn.item.task) ∧
    (∀ turn ∈ c.turns, ∀ relay builder, turn.item.task = .deliver relay builder → ∀ origin seq p,
      .itemPanicked origin seq p ∉ code.lines turn.scope turn.before turn.item.task) := by
  intro moves h c
  have host : c.host = h := Chronicle.after_host (Task.run code) moves (Chronicle.start (Stage.start names))
  have kept : c.Kept := Chronicle.after_kept (Task.run code) moves _ (Chronicle.start_kept _)
  have account : Accounted code c := deeds_accounted code deeds _ (start_accounted code names)
  rw [← host]
  refine ⟨rfl, ?_, fun living => ?_, account.runs, ?_, account.log, ?_⟩
  · intro target builder
    simp only [Act.run, Work.leave, Work.bind_apply, Work.read_apply]
    cases c.host.world.relay? target <;> simp [Work.map_apply, Work.bind_apply]
  · rw [← deliveries_append, kept.conserved living, account.asked living]
  · intro turn _ relay builder _ payload
    exact ending_payload code relay builder turn.scope turn.before payload
  · intro turn _ relay builder task origin seq p
    rw [task]
    exact deliver_lines code relay builder turn.scope turn.before origin seq p

/-- Code that goes wrong in every way: builder 1 panics, builder 2 fails, the payload 0 is not welcome,
and builders set the slot anew while they run. -/
def mishaps : Conduct Nat Nat where
  callback _ _ payload := ⟨[.clear "a"], if payload = 0 then some (.text "unwelcome") else none⟩
  builder _ builder _ :=
    (⟨[.set "a" 9], if builder = 1 then some .other else none⟩,
      if builder = 2 then .error (.build "bad") else .ok builder)
  task _ _ _ := ⟨[.call (.slot "a") 7], some (.text "over")⟩

/-- What is done with the code above: four deliveries are asked for from outside, a fifth by a task, and it
still waits. -/
def mishapDeeds : List (Deed Nat Nat) :=
  [.act (.set "a" 5), .act (.call (.slot "a") 1), .act (.call (.slot "a") 2), .act (.call (.slot "a") 0),
    .act (.call (.slot "a") 4), .act (.post "b" 0), .act (.clear "a"), .drain (.runPending 4),
    .act (.set "a" 6), .drain (.runPending 1)]

theorem mishaps_contained :
    let h := (Host.start (Stage.start ["a"])).after (Task.run mishaps) (mishapDeeds.map Deed.move)
    let c := (Chronicle.start (Stage.start ["a"])).after (Task.run mishaps) (mishapDeeds.map Deed.move)
    h.alive = true ∧
    deliveries (c.turns.map Turn.item) ++ deliveries h.queue.toList = h.world.asked ∧
    (deliveries h.queue.toList).map (fun delivery => delivery.1.callback) = [6] ∧
    h.log = [.eventDropped "a" 0 (.panicked "non-string panic payload"), .eventDropped "a" 1 (.build "bad"),
      .callbackPanicked "a" 2 (.text "unwelcome"), .itemPanicked "b" 4 (.text "over")] := by
  have account := deliveries_contained mishaps ["a"] mishapDeeds
  have living : ((Host.start (Stage.start ["a"])).after (Task.run mishaps)
      (mishapDeeds.map Deed.move)).alive = true := by decide +kernel
  exact ⟨living, account.2.2.1 living, by decide +kernel, by decide +kernel⟩

end SpokenIntent.RelayScript
