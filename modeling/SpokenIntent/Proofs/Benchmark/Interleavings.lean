import Mathlib.Algebra.BigOperators.Group.Finset.Basic
import SpokenIntent.Benchmark.Program
import SpokenIntent.Proofs.Benchmark.Tally
import SpokenIntent.Proofs.Host.Drains
import SpokenIntent.Proofs.Session.Requests

/-!
What a measurement comes to, in whatever order the threads take turns. Shots are relayed in the order in which they
are fired, so each thread's arrive in its own order: all of them do, each once, and none is overtaken.
-/

namespace SpokenIntent.Benchmark

open Shot

/-! ### Orders of shots -/

/-- All shots of a plan, each fired at some time, in an order that keeps that of each thread. -/
structure Plan.Interleaves (plan : Plan) (shots : List Shot) : Prop where
  order : ∀ thread, (ofThread thread shots).map Shot.seq =
    if thread < plan.threads then List.range plan.events else []
  timed : ∀ s ∈ shots, s.Timed

namespace Plan.Interleaves

variable {plan : Plan} {shots : List Shot}

theorem within (interleaves : plan.Interleaves shots) {s : Shot} (member : s ∈ shots) :
    s.thread < plan.threads ∧ s.seq < plan.events := by
  have own : s ∈ ofThread s.thread shots := by simp [ofThread, member]
  have numbered := List.mem_map_of_mem (f := Shot.seq) own
  rw [interleaves.order] at numbered
  split at numbered
  · next known => exact ⟨known, List.mem_range.mp numbered⟩
  · cases numbered

theorem counted (interleaves : plan.Interleaves shots) (few : plan.threads * plan.events < UInt64.size) :
    ∀ s ∈ shots, s.Counted := by
  intro s member
  obtain ⟨threads, events⟩ := interleaves.within member
  constructor
  · exact Nat.lt_of_le_of_lt (Nat.le_trans threads.le (Nat.le_mul_of_pos_right _ (by omega))) few
  · exact Nat.lt_of_le_of_lt (Nat.le_trans events.le (Nat.le_mul_of_pos_left _ (by omega))) few

theorem inOrder (interleaves : plan.Interleaves shots) : InOrder shots := by
  intro thread
  rw [interleaves.order]
  split
  · exact List.pairwise_lt_range
  · exact .nil

theorem total (interleaves : plan.Interleaves shots) : shots.length = plan.total := by
  have known : ∀ thread ∈ (shots.map Shot.thread : Multiset Nat), thread ∈ Finset.range plan.threads := by
    intro thread member
    obtain ⟨s, fired, rfl⟩ := List.mem_map.mp (Multiset.mem_coe.mp member)
    exact Finset.mem_range.mpr (interleaves.within fired).1
  have each : ∀ thread ∈ Finset.range plan.threads,
      (shots.map Shot.thread : Multiset Nat).count thread = plan.events := by
    intro thread member
    have numbers := congrArg List.length (interleaves.order thread)
    rw [if_pos (Finset.mem_range.mp member), List.length_map, List.length_range] at numbers
    rw [Multiset.coe_count, List.count_eq_countP, List.countP_map, List.countP_eq_length_filter, ← numbers]
    rfl
  have all := Multiset.sum_count_eq_card known
  rw [Finset.sum_const_nat each, Finset.card_range, Multiset.coe_card, List.length_map] at all
  rw [← all, Plan.total, Nat.mul_comm]

end Plan.Interleaves

/-! ### Trials -/

/-- What happens to a trial: a thread fires, the clock moves, and the host runs some of what waits. -/
inductive Beat where
  | fire (s : Shot)
  | clock (now : Nat)
  | drain (d : Drain Stand)

def Beat.move : Beat → Move Stand (BridgeTask Unit)
  | .fire s => .perform (Stand.onSession (Session.fire (.recognized (Recognition.textOnly s.text))))
  | .clock now => .perform (Work.update fun stand => { stand with now := now })
  | .drain d => .drain d

def Beat.shot? : Beat → Option Shot
  | .fire s => some s
  | .clock _ => none
  | .drain _ => none

def fired (beats : List Beat) : List Shot := beats.filterMap Beat.shot?

theorem fire_eq (trial : Trial) (s : Shot) : trial.move Stand.runTask (Beat.fire s).move = trial.fire s := rfl

theorem clock_eq (trial : Trial) (now : Nat) :
    trial.move Stand.runTask (Beat.clock now).move = trial.atTime now := by
  rw [Beat.move, Host.move, Host.perform_update, Trial.atTime]

/-- What brings a shot to the callback. -/
def arrival (s : Shot) : Item (BridgeTask Unit) :=
  ⟨Channel.recognized.name, .deliver ⟨Channel.recognized.name, ()⟩ (.recognized ⟨s.text, []⟩)⟩

/-- The callback is set, and the bridge has not been let go. -/
structure Listening (stand : Stand) : Prop where
  attached : stand.session.bridge.detached = false
  callback : (stand.session.bridge.slots .recognized).current = some ⟨Channel.recognized.name, ()⟩

/-- What is fired waits behind all that waits already, and that is all. -/
theorem fire_queue {trial : Trial} (alive : trial.alive = true) (listening : Listening trial.world) (s : Shot) :
    trial.fire s = { trial with queue := trial.queue.append [arrival s] } := by
  have heard : trial.world.session.bridge.receive (.recognized (Recognition.textOnly s.text)) = [arrival s] := by
    simp only [Bridge.receive, listening.attached, Bridge.tellings, Bridge.deliveries, EngineEvent.channel,
      listening.callback]
    rfl
  have left : (Stand.onSession (Session.fire (.recognized (Recognition.textOnly s.text)))).leave trial.world =
      ⟨trial.world, [arrival s], []⟩ := by
    rw [Stand.onSession, Work.within_leave, Session.fire, Work.leave_read]
    simp [Work.leave, heard]
  simp [Trial.fire, Host.perform_eq, left, Host.accepts, alive]

/-- An arrival is counted, and that is all. -/
theorem arrival_execute (trial : Trial) (s : Shot) :
    Host.execute Stand.runTask trial (arrival s) =
      { trial with
        world.tally := trial.world.tally.recordText trial.world.now s.text
        seq := trial.seq + 1 } := by
  have ran (scope : Scope) (e : Effects Stand (BridgeTask Unit)) : Stand.runTask scope (arrival s).task e =
      .ok () { e with world.tally := e.world.tally.recordText e.world.now s.text } := rfl
  obtain ⟨world, queue, seq, log, alive⟩ := trial
  cases alive <;> simp [Host.execute, Host.perform, ran, Host.absorb, Fifo.append]

/-! ### What is relayed -/

/-- Some shots have arrived, in order, and have been counted; others wait, in order. -/
structure Relays (arrived waiting : List Shot) (c : Chronicle Stand (BridgeTask Unit)) : Prop where
  alive : c.host.alive = true
  listening : Listening c.host.world
  turns : c.turns.map Turn.item = arrived.map arrival
  queue : c.host.queue.toList = waiting.map arrival
  tally : c.host.world.tally.Counts (arrived.filter fun s => s.Timed)

section Relays
variable {arrived waiting : List Shot} {c : Chronicle Stand (BridgeTask Unit)}

theorem Relays.fire (relays : Relays arrived waiting c) (s : Shot) :
    Relays arrived (waiting ++ [s]) (c.move Stand.runTask (Beat.fire s).move) := by
  have moved := (fire_eq c.host s).trans (fire_queue relays.alive relays.listening s)
  rw [← Chronicle.move_host] at moved
  exact {
    alive := by rw [moved]; exact relays.alive
    listening := by rw [moved]; exact relays.listening
    turns := relays.turns
    queue := by rw [moved, Fifo.toList_append, relays.queue, List.map_append]; rfl
    tally := by rw [moved]; exact relays.tally }

theorem Relays.clock (relays : Relays arrived waiting c) (now : Nat) :
    Relays arrived waiting (c.move Stand.runTask (Beat.clock now).move) := by
  have moved := clock_eq c.host now
  rw [← Chronicle.move_host] at moved
  exact {
    alive := by rw [moved]; exact relays.alive
    listening := by rw [moved]; exact ⟨relays.listening.attached, relays.listening.callback⟩
    turns := relays.turns
    queue := by rw [moved]; exact relays.queue
    tally := by rw [moved]; exact relays.tally }

theorem Relays.step {s : Shot} (relays : Relays arrived (s :: waiting) c) (counted : s.Counted) :
    c.host.step? Stand.runTask = some (c.step Stand.runTask).host ∧
      Relays (arrived ++ [s]) waiting (c.step Stand.runTask) := by
  have some : c.host.queue.toList ≠ [] := by simp [relays.queue]
  refine ⟨Chronicle.step?_of_waiting _ some, ?_⟩
  cases front : c.host.queue.pop? with
  | none => exact absurd (Fifo.pop?_eq_none.mp front) some
  | some pair =>
      obtain ⟨item, rest⟩ := pair
      have queue := Fifo.toList_of_pop? front
      rw [relays.queue, List.map_cons, List.cons.injEq] at queue
      obtain ⟨rfl, queue⟩ := queue
      have recorded := Tally.recordText_counts c.host.world.now s.text_written counted relays.tally
      rw [← List.filter_append] at recorded
      simp only [Chronicle.step, front, arrival_execute]
      exact {
        alive := relays.alive
        listening := ⟨relays.listening.attached, relays.listening.callback⟩
        turns := by rw [List.map_append, relays.turns, List.map_append]; rfl
        queue := queue.symm
        tally := by dsimp only; exact recorded }

theorem Relays.idle (relays : Relays arrived [] c) : c.host.step? Stand.runTask = none :=
  Host.step?_eq_none.mpr relays.queue

/-- Of the shots fired so far the first ones have arrived and the others wait. -/
def Relayed (shots : List Shot) (c : Chronicle Stand (BridgeTask Unit)) : Prop :=
  ∃ arrived waiting, shots = arrived ++ waiting ∧ Relays arrived waiting c

theorem Relayed.step {shots : List Shot} (counted : ∀ s ∈ shots, s.Counted) (relayed : Relayed shots c) :
    Relayed shots (c.step Stand.runTask) := by
  obtain ⟨arrived, waiting, rfl, relays⟩ := relayed
  cases waiting with
  | nil =>
      rw [Chronicle.step_idle _ _ relays.idle]
      exact ⟨arrived, [], rfl, relays⟩
  | cons s waiting => exact ⟨arrived ++ [s], waiting, by simp, (relays.step (counted s (by simp))).2⟩

theorem Relayed.move {shots : List Shot} (counted : ∀ s ∈ shots, s.Counted) (relayed : Relayed shots c) (beat : Beat) :
    Relayed (shots ++ beat.shot?.toList) (c.move Stand.runTask beat.move) := by
  cases beat with
  | fire s =>
      obtain ⟨arrived, waiting, rfl, relays⟩ := relayed
      exact ⟨arrived, waiting ++ [s], by simp [Beat.shot?], relays.fire s⟩
  | clock now =>
      obtain ⟨arrived, waiting, rfl, relays⟩ := relayed
      exact ⟨arrived, waiting, by simp [Beat.shot?], relays.clock now⟩
  | drain d =>
      rw [Beat.shot?, Option.toList_none, List.append_nil]
      have step (c : Chronicle Stand (BridgeTask Unit)) : Relayed shots c → Relayed shots (c.step Stand.runTask) :=
        Relayed.step counted
      exact Chronicle.drain_invariant Stand.runTask step d c relayed

theorem Relayed.after {shots : List Shot} (beats : List Beat) (counted : ∀ s ∈ shots ++ fired beats, s.Counted)
    (relayed : Relayed shots c) : Relayed (shots ++ fired beats) (c.after Stand.runTask (beats.map Beat.move)) := by
  induction beats generalizing shots c with
  | nil => simpa [fired, Chronicle.after] using relayed
  | cons beat rest ih =>
      have split : shots ++ fired (beat :: rest) = (shots ++ beat.shot?.toList) ++ fired rest := by
        cases beat <;> simp [fired, Beat.shot?, List.filterMap_cons]
      rw [split] at counted ⊢
      have before : ∀ s ∈ shots, s.Counted := by
        intro s member
        exact counted s (by simp [member])
      exact ih counted (relayed.move before beat)

theorem Relays.delivered (relays : Relays arrived waiting c) (timed : ∀ s ∈ arrived, s.Timed) :
    c.host.world.tally.delivered = arrived.length := by
  rw [relays.tally.delivered, filter_timed timed]

/-- A drain that may run this many items, and does not stop by itself before as many shots have arrived. -/
def Patient (expected : Nat) : Drain Stand → Prop
  | .runPending limit => expected ≤ limit
  | .runFor limit => expected ≤ limit
  | .runUntil done limit => expected ≤ limit ∧ ∀ stand, done stand = true → expected ≤ stand.tally.delivered

/-- If a drain does not stop before, nothing waits at its end. -/
theorem Relays.follow {done : Stand → Bool} {limit : Nat} (relays : Relays arrived waiting c)
    (enough : waiting.length ≤ limit)
    (patient : ∀ stand, done stand = true → (arrived ++ waiting).length ≤ stand.tally.delivered)
    (sound : ∀ s ∈ arrived ++ waiting, s.Counted ∧ s.Timed) :
    Relays (arrived ++ waiting) [] (c.follow Stand.runTask done limit) := by
  induction waiting generalizing arrived c limit with
  | nil =>
      rw [Chronicle.follow_idle _ _ _ _ relays.idle, List.append_nil]
      exact relays
  | cons s waiting ih =>
      have delivered := relays.delivered fun s member => (sound s (List.mem_append_left _ member)).2
      have unmet : done c.host.world ≠ true := by
        intro stops
        have late := patient c.host.world stops
        rw [delivered] at late
        simp at late
      obtain ⟨limit, rfl⟩ := Nat.exists_eq_add_one_of_ne_zero (Nat.ne_of_gt (Nat.lt_of_lt_of_le (by simp) enough))
      have next := (relays.step (sound s (by simp)).1).2
      rw [List.append_cons] at patient sound ⊢
      simpa [Chronicle.follow, unmet] using ih next (Nat.le_of_succ_le_succ enough) patient sound

theorem Relayed.drained {shots : List Shot} {d : Drain Stand} (relayed : Relayed shots c)
    (patient : Patient shots.length d) (counted : ∀ s ∈ shots, s.Counted) (timed : ∀ s ∈ shots, s.Timed) :
    Relays shots [] (c.drain Stand.runTask d) := by
  obtain ⟨arrived, waiting, rfl, relays⟩ := relayed
  have sound (s : Shot) (member : s ∈ arrived ++ waiting) : s.Counted ∧ s.Timed :=
    ⟨counted s member, timed s member⟩
  have fewer : waiting.length ≤ (arrived ++ waiting).length := by
    rw [List.length_append]
    exact Nat.le_add_left _ _
  cases d with
  | runPending limit => exact relays.follow (Nat.le_trans fewer patient) (by simp) sound
  | runFor limit => exact relays.follow (Nat.le_trans fewer patient) (by simp) sound
  | runUntil done limit => exact relays.follow (Nat.le_trans fewer patient.1) patient.2 sound

/-- Once all shots of a plan have arrived the report has them all, and no violation. -/
theorem Relays.reported {plan : Plan} {shots : List Shot} (relays : Relays shots [] c)
    (interleaves : plan.Interleaves shots) (wall : Nat) :
    let report := plan.report wall c.host
    report.fired = shots.length ∧ report.delivered = report.fired ∧ report.violations = 0 := by
  intro report
  have counts := relays.tally
  rw [filter_timed interleaves.timed] at counts
  refine ⟨interleaves.total.symm, counts.delivered.trans interleaves.total, ?_⟩
  exact counts.violations.trans ((overtakings_eq_zero shots).mpr interleaves.inOrder)

end Relays

theorem open?_relays : ∃ trial, Trial.open? = .ok trial ∧ Relays [] [] (Chronicle.found trial) :=
  ⟨_, rfl, rfl, ⟨rfl, rfl⟩, rfl, rfl, Tally.empty_counts⟩

/-- The drain that a trial waits with. -/
def waitingFor (expected : Nat) : Drain Stand :=
  .runUntil (fun stand => expected ≤ stand.tally.delivered) expected

theorem waitingFor_patient (expected : Nat) : Patient expected (waitingFor expected) :=
  ⟨le_rfl, fun _ => of_decide_eq_true⟩

theorem await_eq (trial : Trial) (expected : Nat) :
    (trial.await expected).2 = trial.drain Stand.runTask (waitingFor expected) := rfl

theorem await_done (trial : Trial) (expected : Nat) :
    (trial.await expected).1.done = decide (expected ≤ (trial.await expected).2.world.tally.delivered) :=
  Host.runUntilFrom_done _ _ _ _

/-! ### What the callback counts -/

/-- The stand after its callback was given these payloads, each at some time. -/
def given (stand : Stand) (arrivals : List (Nat × RecognizedPayload)) : Stand :=
  arrivals.foldl (fun stand arrived =>
    ((Stand.invoke (.recognized arrived.2)).leave { stand with now := arrived.1 }).world) stand

theorem given_counts {stand : Stand} {before shots : List Shot} {arrivals : List (Nat × RecognizedPayload)}
    (written : List.Forall₂ (fun arrived s => s.Written arrived.2.text) arrivals shots)
    (counted : ∀ s ∈ shots, s.Counted) (counts : stand.tally.Counts before) :
    (given stand arrivals).tally.Counts (before ++ shots.filter fun s => s.Timed) := by
  induction written generalizing stand before with
  | nil => simpa [given] using counts
  | @cons arrived s arrivals shots first rest ih =>
      have next : ((Stand.invoke (.recognized arrived.2)).leave { stand with now := arrived.1 }).world.tally.Counts
          (before ++ [s].filter fun s => s.Timed) :=
        Tally.recordText_counts arrived.1 first (counted s List.mem_cons_self) counts
      have last := ih (fun s member => counted s (List.mem_cons_of_mem _ member)) next
      rwa [List.append_assoc, ← List.filter_append] at last

/-! ### What is asked for -/

/-- Numbers of threads and events are taken as they are given, but for those that are too small or too large. -/
theorem plan_of_numbers {events threads : Nat} (eventsFit : events < UInt64.size) (threadsFit : threads < UInt64.size) :
    Invocation.ofArguments ["--events", Text.decimal events, "--threads", Text.decimal threads] =
      .ok (.measure { Plan.default with events := max 1 events, threads := max 1 (min 64 threads) }) := by
  have eventsRead : Text.readSignedBelow numberBound (Text.decimal events) = some events :=
    ((Text.toDigits_denotes events).readSignedBelow_eq numberBound).trans (if_pos eventsFit)
  have threadsRead : Text.readSignedBelow numberBound (Text.decimal threads) = some threads :=
    ((Text.toDigits_denotes threads).readSignedBelow_eq numberBound).trans (if_pos threadsFit)
  have eventsName : PlanOption.ofName? "--events" = some .events := by decide
  have threadsName : PlanOption.ofName? "--threads" = some .threads := by decide
  simp only [Invocation.ofArguments, readArguments, eventsName, threadsName, Plan.set?, eventsRead, threadsRead,
    Option.map_some]
  rfl

/-! ### The whole measurement -/

/-- Texts that give the callback shots whose numbers fit into their fields are counted exactly, in whatever order and at
whatever times they come: all of them arrive, and a violation is one whose number is no greater than that of the one
before it, of the same thread. There is none exactly if the numbers of every thread ascend. Where a time does not fit,
it is as if the shot had not come.
The relay never comes to that. However the threads take turns in firing the shots of a plan, and whatever the host
runs in between: a drain that is patient brings each to the callback once, in the order in which they were fired; then
nothing waits, and the report has as many arrivals as shots and no violation. The benchmark waits with such a drain,
and not in vain. It plans for one event at least, and for one to 64 threads. -/
theorem violations_exact :
    (∃ trial, Trial.open? = .ok trial ∧
      (∀ (arrivals : List (Nat × RecognizedPayload)) (shots : List Shot),
        List.Forall₂ (fun arrived s => s.Written arrived.2.text) arrivals shots →
        (∀ s ∈ shots, s.thread < 2 ^ 64 ∧ s.seq < 2 ^ 64 ∧ s.micros < 2 ^ 128) →
        let tally := (given trial.world arrivals).tally
        tally.delivered = shots.length ∧ tally.violations = overtakings shots ∧
        (tally.violations = 0 ↔ ∀ thread, ((ofThread thread shots).map Shot.seq).Pairwise (· < ·))) ∧
      (∀ (arrivals : List (Nat × RecognizedPayload)) (shots : List Shot),
        List.Forall₂ (fun arrived s => s.Written arrived.2.text) arrivals shots → (∀ s ∈ shots, s.Counted) →
        let tally := (given trial.world arrivals).tally
        let timed := shots.filter fun s => s.Timed
        tally.delivered = timed.length ∧ tally.violations = overtakings timed) ∧
      ∀ (plan : Plan) (beats : List Beat), plan.threads * plan.events < UInt64.size →
        plan.Interleaves (fired beats) →
        let c := (Chronicle.found trial).after Stand.runTask (beats.map Beat.move)
        (∀ d, Patient plan.total d →
          let drained := c.drain Stand.runTask d
          drained.turns.map Turn.item = (fired beats).map arrival ∧ drained.host.pending = 0 ∧
          ∀ wall, let report := plan.report wall drained.host
            report.fired = (fired beats).length ∧ report.delivered = report.fired ∧ report.violations = 0) ∧
        let awaited := Trial.await (trial.after Stand.runTask (beats.map Beat.move)) plan.total
        ∃ d, Patient plan.total d ∧ awaited.2 = (c.drain Stand.runTask d).host ∧ awaited.1.done = true) ∧
    ∀ events threads : Nat, events < UInt64.size → threads < UInt64.size →
      Invocation.ofArguments ["--events", Text.decimal events, "--threads", Text.decimal threads] =
        .ok (.measure { Plan.default with events := max 1 events, threads := max 1 (min 64 threads) }) := by
  refine ⟨?_, fun events threads => plan_of_numbers⟩
  obtain ⟨trial, opened, relays⟩ := open?_relays
  refine ⟨trial, opened, ?_, ?_, ?_⟩
  · intro arrivals shots written fitting tally
    -- where all times fit, none of the shots is left out
    have counts : tally.Counts (shots.filter fun s => s.Timed) :=
      given_counts written (fun s member => ⟨(fitting s member).1, (fitting s member).2.1⟩) relays.tally
    rw [filter_timed fun s member => (fitting s member).2.2] at counts
    refine ⟨counts.delivered, counts.violations, ?_⟩
    rw [counts.violations]
    exact overtakings_eq_zero shots
  · intro arrivals shots written counted tally timed
    have counts : tally.Counts timed := given_counts written counted relays.tally
    exact ⟨counts.delivered, counts.violations⟩
  · intro plan beats few interleaves c
    have counted := interleaves.counted few
    have first : Relayed [] (Chronicle.found trial) := ⟨[], [], rfl, relays⟩
    have relayed : Relayed (fired beats) c := first.after beats counted
    have all {d : Drain Stand} (patient : Patient plan.total d) : Relays (fired beats) [] (c.drain Stand.runTask d) :=
      relayed.drained (interleaves.total ▸ patient) counted interleaves.timed
    constructor
    · intro d patient drained
      have ended := all patient
      refine ⟨ended.turns, ?_, ended.reported interleaves⟩
      rw [Host.pending_eq, ended.queue]
      rfl
    · intro awaited
      have patient := waitingFor_patient plan.total
      have host : awaited.2 = (c.drain Stand.runTask (waitingFor plan.total)).host := by
        rw [Chronicle.drain_host, Chronicle.after_host]
        exact await_eq _ _
      refine ⟨_, patient, host, ?_⟩
      have arrived : plan.total ≤ awaited.2.world.tally.delivered := by
        rw [host, (all patient).delivered interleaves.timed, interleaves.total]
      exact (await_done _ _).trans (decide_eq_true arrived)

/-- Thread 0 fires shot 5 twice, the second time with a zero in front; the others are in order. Then two threads take
turns, and the host runs one item at a time in between. -/
theorem repeated_violations_exact :
    (∃ trial, Trial.open? = .ok trial ∧
      (given trial.world [(1, ⟨"0:5:0", []⟩), (2, ⟨"1:1:0", []⟩), (3, ⟨"0:05:2", []⟩)]).tally.violations = 1 ∧
      let plan : Plan := ⟨2, 2, 30, none⟩
      let beats := [Beat.fire ⟨1, 0, 0⟩, .fire ⟨0, 0, 0⟩, .clock 7, .drain (.runPending 1), .fire ⟨1, 1, 7⟩,
        .drain (.runFor 1), .clock 8, .fire ⟨0, 1, 8⟩]
      let awaited := Trial.await (trial.after Stand.runTask (beats.map Beat.move)) plan.total
      awaited.1.done = true ∧ (plan.report 0 awaited.2).delivered = 4 ∧
        (plan.report 0 awaited.2).violations = 0) ∧
    Invocation.ofArguments ["--events", "0", "--threads", "9"] = .ok (.measure ⟨1, 9, 30, none⟩) := by
  obtain ⟨⟨trial, opened, tallied, -, relayed⟩, planned⟩ := violations_exact
  refine ⟨⟨trial, opened, ?_, ?_⟩, planned 0 9 (by decide) (by decide)⟩
  · have first : Shot.Written ⟨0, 5, 0⟩ "0:5:0" := Shot.text_written ⟨0, 5, 0⟩
    have second : Shot.Written ⟨1, 1, 0⟩ "1:1:0" := Shot.text_written ⟨1, 1, 0⟩
    have third : Shot.Written ⟨0, 5, 2⟩ "0:05:2" :=
      ⟨['0'], ['0', '5'], ['2'], rfl, Text.denotes_of_digits (by decide) (List.all_eq_true.mp rfl),
        Text.denotes_of_digits (by decide) (List.all_eq_true.mp rfl),
        Text.denotes_of_digits (by decide) (List.all_eq_true.mp rfl)⟩
    have counts := tallied [(1, ⟨"0:5:0", []⟩), (2, ⟨"1:1:0", []⟩), (3, ⟨"0:05:2", []⟩)]
      [⟨0, 5, 0⟩, ⟨1, 1, 0⟩, ⟨0, 5, 2⟩] (.cons first (.cons second (.cons third .nil))) (by decide)
    exact counts.2.1.trans (by decide)
  · intro plan beats awaited
    have interleaves : plan.Interleaves (fired beats) := by
      refine ⟨?_, by decide⟩
      intro thread
      match thread with
      | 0 => rfl
      | 1 => rfl
      | n + 2 => rfl
    obtain ⟨reports, d, patient, host, done⟩ := relayed plan beats (by decide) interleaves
    obtain ⟨-, -, reported⟩ := reports d patient
    obtain ⟨-, delivered, none⟩ := reported 0
    rw [host]
    exact ⟨done, delivered, none⟩

/-- A time that does not fit into its field: the shot comes a second time, but nobody sees that. And a hundred threads
are not to be had. -/
theorem untimed_violation_missed :
    let late := "0:5:340282366920938463463374607431768211456"
    let shots : List Shot := [⟨0, 5, 0⟩, ⟨0, 5, 2 ^ 128⟩]
    (∃ trial, Trial.open? = .ok trial ∧ List.Forall₂ Shot.Written shots ["0:5:0", late] ∧
      (∀ s ∈ shots, s.thread < 2 ^ 64 ∧ s.seq < 2 ^ 64) ∧
      overtakings shots = 1 ∧ ¬ ((ofThread 0 shots).map Shot.seq).Pairwise (· < ·) ∧
      (given trial.world [(1, ⟨"0:5:0", []⟩), (2, ⟨late, []⟩)]).tally.violations = 0) ∧
    Invocation.ofArguments ["--events", "1", "--threads", "100"] = .ok (.measure ⟨1, 64, 30, none⟩) := by
  intro late shots
  refine ⟨?_, @plan_of_numbers 1 100 (by decide) (by decide)⟩
  obtain ⟨trial, opened, relays⟩ := open?_relays
  have first : Shot.Written ⟨0, 5, 0⟩ "0:5:0" := Shot.text_written ⟨0, 5, 0⟩
  have second : Shot.Written ⟨0, 5, 2 ^ 128⟩ late :=
    ⟨['0'], ['5'], "340282366920938463463374607431768211456".toList, by decide,
      Text.denotes_of_digits (by decide) (List.all_eq_true.mp rfl),
      Text.denotes_of_digits (by decide) (List.all_eq_true.mp rfl),
      Text.denotes_of_digits (by decide) (List.all_eq_true.mp rfl)⟩
  let arrivals : List (Nat × RecognizedPayload) := [(1, ⟨"0:5:0", []⟩), (2, ⟨late, []⟩)]
  have written : List.Forall₂ (fun arrived s => s.Written arrived.2.text) arrivals shots :=
    .cons first (.cons second .nil)
  have counts := given_counts written (by decide : ∀ s ∈ shots, s.Counted) relays.tally
  exact ⟨trial, opened, .cons first (.cons second .nil), by decide, by decide, by decide,
    counts.violations.trans (by decide)⟩

end SpokenIntent.Benchmark
