import SpokenIntent.Proofs.Console.Sessions

/-!
How a console ends. It stops the session and runs items until the host has been told that no session
runs. The item that tells the host so is posted before the one that gives notice of the end, and nothing
runs after it: whatever has happened before, the end of a session that runs as the console ends is never
given notice of. One item more and it would be.
-/

namespace SpokenIntent.Console

variable {ids : Nat → String} {n m : Nat} {c : Console}

/-- What the last drain runs until. -/
def idle (d : Desk) : Bool := !d.session.bridge.running

theorem idle_eq {owed : Bool} (orderly : Orderly ids n owed m c) :
    idle c.world = decide ((n + owed.toNat) % 2 = 0) := by
  rw [idle, orderly.flag, ← decide_not, decide_eq_decide]
  omega

/-- A notice that is owed waits, and so does a milestone that the host has not been told of. -/
theorem step_some {owed : Bool} (orderly : Orderly ids n owed m c) (due : owed = true ∨ n ≠ m) :
    ∃ next : Console, c.step? Desk.runTask = some next ∧ next.pending + 1 = c.pending := by
  cases front : c.queue.pop? with
  | none =>
      have waiting := orderly.waiting
      rw [Fifo.pop?_eq_none.mp front] at waiting
      cases waiting
      simp at due
  | some pair =>
      have count := congrArg List.length (Fifo.toList_of_pop? front)
      simp only [Fifo.length_toList, List.length_cons] at count
      refine ⟨Host.execute Desk.runTask { c with queue := pair.2 } pair.1, by simp [Host.step?, front], ?_⟩
      simpa [Host.pending, execute_eq] using count.symm

theorem runUntil_idle (limit checks : Nat) (rests : idle c.world = true) :
    c.runUntilFrom Desk.runTask idle limit checks = (⟨true, checks + 1⟩, c) := by
  cases limit <;> simp [Host.runUntilFrom, rests]

/-- The drain of a console that has given notice of a beginning, and that waits for the end: it comes to
the item that tells the host of the end, if it is let run that far, and stops short of the notice. -/
theorem runUntil_orderly (odd : n % 2 = 1) (even : m % 2 = 0) (limit checks : Nat)
    (orderly : Orderly ids n false m c) :
    let drained := c.runUntilFrom Desk.runTask idle limit checks
    (∃ owed, Orderly ids n owed m drained.2) ∧
    (c.pending ≤ limit → drained.1.done = true ∧ Orderly ids n true m drained.2) := by
  induction limit generalizing c checks with
  | zero =>
      refine ⟨⟨false, orderly⟩, ?_⟩
      intro enough
      -- an item waits, so the limit is too low
      obtain ⟨next, -, fewer⟩ := step_some orderly (.inr (by omega))
      omega
  | succ limit ih =>
      have runs : idle c.world = false := by simp [idle_eq orderly, odd]
      obtain ⟨next, stepped, fewer⟩ := step_some orderly (.inr (by omega))
      simp only [Host.runUntilFrom, runs, stepped, Bool.false_eq_true, ↓reduceIte]
      obtain moved | told := step_orderly orderly stepped
      · obtain ⟨kept, done⟩ := ih (checks + 1) moved
        exact ⟨kept, fun enough => done (by omega)⟩
      · -- the item was the one that tells the host of the end
        rw [runUntil_idle _ _ (by simp [idle_eq told]; omega)]
        exact ⟨⟨true, told⟩, fun _ => ⟨rfl, told⟩⟩

theorem finish_notices (c : Console) :
    c.finish.sessionNotices =
      sessionNotices ((c.handle .stop).runUntil Desk.runTask idle drainLimit).2 := by
  simp only [finish, leave, sessionNotices, Host.close, Host.perform_eq, Desk.onSession, Work.within_leave]
  rfl

/-- A console that has given notice of a beginning last. -/
theorem drained_orderly {owed : Bool} (odd : n % 2 = 1) (orderly : Orderly ids n owed m c) :
    let drained := (c.handle .stop).runUntil Desk.runTask idle drainLimit
    ∃ m', (∃ owed', Orderly ids n owed' m' drained.2) ∧
      ((c.handle .stop).pending ≤ drainLimit → drained.1.done = true ∧ Orderly ids n true m' drained.2) := by
  obtain ⟨m', stopped, even⟩ := handle_orderly orderly .stop
  cases owed with
  | false => exact ⟨m', runUntil_orderly odd (even rfl) drainLimit 0 stopped⟩
  | true =>
      -- the host has been told of the end before, so the drain runs nothing
      rw [Host.runUntil, runUntil_idle _ _ (by simp [idle_eq stopped]; omega)]
      exact ⟨m', ⟨true, stopped⟩, fun _ => ⟨rfl, stopped⟩⟩

/-- A console that has given notice of an end last, or of nothing. A beginning that the host has been told
of, and of which notice is owed, is still given notice of. -/
theorem rested_orderly {owed : Bool} (rested : n % 2 = 0) (orderly : Orderly ids n owed m c) :
    c.finish.sessionNotices = milestoneNotices ids (n + owed.toNat) := by
  obtain ⟨m', stopped, even⟩ := handle_orderly orderly .stop
  rw [finish_notices, Host.runUntil]
  cases owed with
  | false =>
      rw [runUntil_idle _ _ (by simp [idle_eq stopped, rested])]
      exact stopped.notices
  | true =>
      have runs : idle (c.handle .stop).world = false := by simp [idle_eq stopped]; omega
      obtain ⟨next, stepped, -⟩ := step_some stopped (.inl rfl)
      have told : Orderly ids (n + 1) false m' next := step_orderly stopped stepped
      obtain ⟨limit, limited⟩ : ∃ limit, drainLimit = limit + 1 := ⟨999999, rfl⟩
      obtain ⟨⟨owed', kept⟩, -⟩ := runUntil_orderly (by omega) (even rfl) limit 1 told
      simp only [limited, Host.runUntilFrom, runs, stepped, Bool.false_eq_true, ↓reduceIte]
      exact kept.notices

theorem milestoneNotices_last (id : String) :
    (milestoneNotices ids n).getLast? = some (.started id) ↔ n % 2 = 1 ∧ id = ids (n / 2) := by
  cases n with
  | zero => simp [milestoneNotices]
  | succ n =>
      rw [milestoneNotices_succ, List.getLast?_concat, milestoneNotice]
      by_cases even : n % 2 = 0
      · simp [even, show (n + 1) % 2 = 1 by omega, show (n + 1) / 2 = n / 2 by omega, eq_comm]
      · simp [even, show (n + 1) % 2 ≠ 1 by omega]

/-- However a console has been used before, and whenever its host has drained: its notices of sessions are
those of the milestones, a beginning and an end in turn. If the last of them is a beginning as the console
ends, no other follows, although one item more would have given notice of the end. So every beginning is
followed by its end exactly if the host has been told that no session runs and the last notice is not one of
a beginning. -/
theorem finish_stops_short {s : Settings} {credentials : Credentials} {c₀ : Console}
    (opened : open? s credentials ids = .ok c₀) (turns : List Turn) :
    let c := c₀.play turns
    let drained := (c.handle .stop).runUntil Desk.runTask idle drainLimit
    (∀ id, c.sessionNotices.getLast? = some (.started id) →
      c.finish.sessionNotices = c.sessionNotices ∧
      ((c.handle .stop).pending ≤ drainLimit → drained.1.done = true ∧
        ∃ next : Console, drained.2.step? Desk.runTask = some next ∧
          next.sessionNotices = c.sessionNotices ++ [.stopped id])) ∧
    (∃ k, c.finish.sessionNotices = milestoneNotices ids k ∧
      (k % 2 = 0 ↔ c.world.session.bridge.running = false ∧
        ∀ id, c.sessionNotices.getLast? ≠ some (.started id))) := by
  intro c drained
  obtain ⟨n, owed, m, orderly⟩ : ∃ n owed m, Orderly ids n owed m c :=
    play_orderly (open_orderly opened) turns
  constructor
  · intro id last
    rw [orderly.notices, milestoneNotices_last] at last
    obtain ⟨odd, rfl⟩ := last
    obtain ⟨m', ⟨owed', left⟩, done⟩ := drained_orderly odd orderly
    refine ⟨by rw [finish_notices, left.notices, orderly.notices], ?_⟩
    intro enough
    obtain ⟨finished, short⟩ := done enough
    obtain ⟨next, stepped, -⟩ := step_some short (.inl rfl)
    have given : Orderly ids (n + 1) false m' next := step_orderly short stepped
    refine ⟨finished, next, stepped, ?_⟩
    rw [given.notices, orderly.notices, milestoneNotices_succ]
    simp [milestoneNotice, odd]
  · have flag := orderly.flag
    by_cases odd : n % 2 = 1
    · obtain ⟨m', ⟨owed', left⟩, -⟩ := drained_orderly odd orderly
      refine ⟨n, by rw [finish_notices, left.notices], ?_⟩
      simp [orderly.notices, milestoneNotices_last, odd]
    · refine ⟨n + owed.toNat, rested_orderly (by omega) orderly, ?_⟩
      simp only [flag, orderly.notices, ne_eq, milestoneNotices_last, odd, false_and, not_false_eq_true,
        implies_true, and_true, decide_eq_false_iff_not]
      omega

/-- A console without a vocabulary. -/
def plainConsole (ids : Nat → String) : Console :=
  ((Host.start ⟨⟨(Simulator.obey (.connect ()) (Simulator.create true ids)).engine, Bridge.create⟩, ⟨[]⟩, []⟩).perform
    (Desk.onSession (Desk.setUp ⟨none, none, [], [], [], ""⟩))).2

theorem plainConsole_opened (ids : Nat → String) :
    open? ⟨none, none, [], [], [], ""⟩ ⟨"k", "r", by decide, by decide⟩ ids =
      .ok (plainConsole ids) := rfl

/-- The first session is stopped by hand, the second as the console ends. -/
theorem second_session_stops_short :
    let ids : Nat → String := fun k => if k = 0 then "a" else "b"
    let turns : List Turn :=
      [.input .start, .drain, .input (.speak "go"), .input .stop, .drain, .input .start, .drain]
    let c := (plainConsole ids).play turns
    let drained := (c.handle .stop).runUntil Desk.runTask idle drainLimit
    c.sessionNotices = [.started "a", .stopped "a", .started "b"] ∧
    c.finish.sessionNotices = [.started "a", .stopped "a", .started "b"] ∧
    ∃ next : Console, drained.2.step? Desk.runTask = some next ∧
      next.sessionNotices = [.started "a", .stopped "a", .started "b", .stopped "b"] := by
  intro ids turns c drained
  have notices : c.sessionNotices = [.started "a", .stopped "a", .started "b"] := by decide +kernel
  obtain ⟨short, more⟩ := (finish_stops_short (plainConsole_opened ids) turns).1 "b"
    (show c.sessionNotices.getLast? = _ by rw [notices]; rfl)
  obtain ⟨-, next, stepped, given⟩ := more (by decide +kernel)
  refine ⟨notices, short.trans notices, next, stepped, ?_⟩
  rw [given, show c.sessionNotices = _ from notices]
  rfl

/-- The only session of a console, which runs as it ends: its end is never given notice of. -/
theorem lone_session_unended :
    let c := (plainConsole fun _ => "a").play [.input .start, .drain]
    c.world.session.engine.session = some "a" ∧
    c.world.session.bridge.running = true ∧
    c.pending = 0 ∧
    c.finish.world.notices = [.started "a"] ∧
    Notice.stopped "a" ∉ c.finish.world.notices := by
  decide +kernel

end SpokenIntent.Console
