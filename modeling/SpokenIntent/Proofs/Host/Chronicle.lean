import SpokenIntent.Proofs.Host.Effects

/-!
What happens on a host from its start on. A chronicle keeps, beside the host, the items that were
posted while it was alive and the turns of those that have run. It goes through the same moves as the
host: code from outside, drains of all three forms, and the end of the host.

Main statement: the turns so far and the items that wait are the items posted, in order; the turns are
numbered from zero; panics change nothing but the log; and once the host is gone nothing runs.
-/

namespace SpokenIntent

variable {σ τ : Type}

/-- A drain that runs at most `limit` items. What a longer drain has come to in between is what one
with a smaller limit comes to. A condition only looks at the world; one that does more is work that is
performed between drains of one item each. -/
inductive Drain (σ : Type) where
  | runPending (limit : Nat)
  | runFor (limit : Nat)
  | runUntil (done : σ → Bool) (limit : Nat)

/-- What is done with a host from outside. -/
inductive Move (σ τ : Type) where
  | perform (work : Work σ τ Unit)
  | drain (d : Drain σ)
  | close

namespace Host

def drain (act : Scope → τ → Work σ τ Unit) (h : Host σ τ) : Drain σ → Host σ τ
  | .runPending limit => (h.runPending act limit).2
  | .runFor limit => (h.runFor act limit).2
  | .runUntil done limit => (h.runUntil act done limit).2

def move (act : Scope → τ → Work σ τ Unit) (h : Host σ τ) : Move σ τ → Host σ τ
  | .perform work => (h.perform work).2
  | .drain d => h.drain act d
  | .close => h.close

def after (act : Scope → τ → Work σ τ Unit) (moves : List (Move σ τ)) (h : Host σ τ) : Host σ τ :=
  moves.foldl (move act) h

end Host

/-- An item that has run, with the scope that it was given and the world that it found. -/
structure Turn (σ τ : Type) where
  scope : Scope
  item : Item τ
  before : σ

structure Chronicle (σ τ : Type) where
  host : Host σ τ
  posted : List (Item τ)
  turns : List (Turn σ τ)

namespace Chronicle

def start (world : σ) : Chronicle σ τ := ⟨Host.start world, [], []⟩

def perform (c : Chronicle σ τ) (work : Work σ τ Unit) : Chronicle σ τ :=
  { c with
    host := (c.host.perform work).2
    posted := c.posted ++ c.host.accepts (work.leave c.host.world) }

def step (act : Scope → τ → Work σ τ Unit) (c : Chronicle σ τ) : Chronicle σ τ :=
  match c.host.queue.pop? with
  | none => c
  | some (item, rest) =>
    { host := Host.execute act { c.host with queue := rest } item
      posted := c.posted ++
        c.host.accepts ((act (c.host.scopeOf item) item.task).leave c.host.world)
      turns := c.turns ++ [⟨c.host.scopeOf item, item, c.host.world⟩] }

/-- Turns until `done` holds, as many as there are and `limit` allows. -/
def follow (act : Scope → τ → Work σ τ Unit) (done : σ → Bool) : Nat → Chronicle σ τ → Chronicle σ τ
  | 0, c => c
  | limit + 1, c => if done c.host.world then c else follow act done limit (c.step act)

def drain (act : Scope → τ → Work σ τ Unit) (c : Chronicle σ τ) : Drain σ → Chronicle σ τ
  | .runPending limit => c.follow act (fun _ => false) limit
  | .runFor limit => c.follow act (fun _ => false) limit
  | .runUntil done limit => c.follow act done limit

def close (c : Chronicle σ τ) : Chronicle σ τ := { c with host := c.host.close }

def move (act : Scope → τ → Work σ τ Unit) (c : Chronicle σ τ) : Move σ τ → Chronicle σ τ
  | .perform work => c.perform work
  | .drain d => c.drain act d
  | .close => c.close

def after (act : Scope → τ → Work σ τ Unit) (moves : List (Move σ τ)) (c : Chronicle σ τ) :
    Chronicle σ τ :=
  moves.foldl (move act) c

/-! ### The host of a chronicle -/

section Drains
variable (act : Scope → τ → Work σ τ Unit)

theorem step_host (c : Chronicle σ τ) : (c.step act).host = (c.host.step? act).getD c.host := by
  simp only [step, Host.step?]
  cases c.host.queue.pop? <;> rfl

theorem step_idle (c : Chronicle σ τ) (idle : c.host.step? act = none) : c.step act = c := by
  have empty : c.host.queue.pop? = none := Fifo.pop?_eq_none.mpr (Host.step?_eq_none.mp idle)
  simp [step, empty]

theorem follow_idle (done : σ → Bool) (limit : Nat) (c : Chronicle σ τ)
    (idle : c.host.step? act = none) : c.follow act done limit = c := by
  induction limit with
  | zero => rfl
  | succ limit ih => simp [follow, step_idle act c idle, ih]

theorem step_turns_length (c : Chronicle σ τ) (next : Host σ τ) (taken : c.host.step? act = some next) :
    (c.step act).host = next ∧ (c.step act).turns.length = c.turns.length + 1 := by
  constructor
  · simp [step_host, taken]
  · cases front : c.host.queue.pop? with
    | none => simp [Host.step?, front] at taken
    | some pair => simp [step, front]

theorem follow_runPending (limit : Nat) (c : Chronicle σ τ) :
    (c.follow act (fun _ => false) limit).host = (c.host.runPending act limit).2 ∧
    (c.follow act (fun _ => false) limit).turns.length =
      c.turns.length + (c.host.runPending act limit).1 := by
  induction limit generalizing c with
  | zero => simp [follow, Host.runPending]
  | succ limit ih =>
      cases taken : c.host.step? act with
      -- nothing waits, so the turns that the limit still allows change nothing
      | none => simp [follow_idle act _ _ c taken, Host.runPending, taken]
      | some next =>
          obtain ⟨host, count⟩ := step_turns_length act c next taken
          obtain ⟨ihHost, ihCount⟩ := ih (c.step act)
          rw [host] at ihHost ihCount
          refine ⟨by simp [follow, Host.runPending, taken, ihHost], ?_⟩
          simp only [follow, Host.runPending, taken, ihCount, count, Bool.false_eq_true, ↓reduceIte]
          omega

/-- The two unconditional drains run the same items. -/
theorem runFor_eq_runPending (limit ran : Nat) (h : Host σ τ) :
    Host.runForFrom act limit ran h = (ran + (h.runPending act limit).1, (h.runPending act limit).2) := by
  induction limit generalizing ran h with
  | zero => simp [Host.runForFrom, Host.runPending]
  | succ limit ih =>
      cases taken : h.step? act with
      | none => simp [Host.runForFrom, Host.runPending, taken]
      | some next =>
          simp only [Host.runForFrom, Host.runPending, taken, ih, Prod.mk.injEq, and_true]
          omega

theorem follow_runUntil (done : σ → Bool) (limit checks : Nat) (c : Chronicle σ τ) :
    (c.follow act done limit).host = (Host.runUntilFrom act done limit checks c.host).2 := by
  induction limit generalizing c checks with
  | zero => simp [follow, Host.runUntilFrom]
  | succ limit ih =>
      by_cases holds : done c.host.world = true
      · simp [follow, Host.runUntilFrom, holds]
      · cases taken : c.host.step? act with
        | none => simp [follow_idle act _ _ c taken, Host.runUntilFrom, taken, holds]
        | some next =>
            have host := (step_turns_length act c next taken).1
            simp [follow, Host.runUntilFrom, taken, holds, ih (checks + 1), host]

theorem drain_host (c : Chronicle σ τ) (d : Drain σ) : (c.drain act d).host = c.host.drain act d := by
  cases d with
  | runPending limit => exact (follow_runPending act limit c).1
  | runFor limit =>
      simp only [drain, Host.drain, Host.runFor, runFor_eq_runPending act limit 0 c.host]
      exact (follow_runPending act limit c).1
  | runUntil done limit => exact follow_runUntil act done limit 0 c

theorem move_host (c : Chronicle σ τ) (m : Move σ τ) : (c.move act m).host = c.host.move act m := by
  cases m with
  | perform work => rfl
  | drain d => exact drain_host act c d
  | close => rfl

theorem after_host (moves : List (Move σ τ)) (c : Chronicle σ τ) :
    (c.after act moves).host = c.host.after act moves := by
  induction moves generalizing c with
  | nil => rfl
  | cons m rest ih =>
      have tail := ih (c.move act m)
      rw [move_host] at tail
      exact tail

theorem runPending_empty (limit : Nat) (h : Host σ τ) (returned : (h.runPending act limit).1 < limit) :
    (h.runPending act limit).2.queue.toList = [] := by
  induction limit generalizing h with
  | zero => simp at returned
  | succ limit ih =>
      cases taken : h.step? act with
      | none =>
          simp only [Host.runPending, taken]
          exact Host.step?_eq_none.mp taken
      | some next =>
          simp only [Host.runPending, taken] at returned ⊢
          exact ih next (by omega)

theorem follow_invariant {Inv : Chronicle σ τ → Prop} (step : ∀ c, Inv c → Inv (c.step act))
    (done : σ → Bool) (limit : Nat) (c : Chronicle σ τ) (holds : Inv c) :
    Inv (c.follow act done limit) := by
  induction limit generalizing c with
  | zero => exact holds
  | succ limit ih =>
      simp only [follow]
      split
      · exact holds
      · exact ih (c.step act) (step c holds)

theorem drain_invariant {Inv : Chronicle σ τ → Prop} (step : ∀ c, Inv c → Inv (c.step act))
    (d : Drain σ) (c : Chronicle σ τ) (holds : Inv c) : Inv (c.drain act d) := by
  cases d with
  | runPending limit => exact follow_invariant act step _ limit c holds
  | runFor limit => exact follow_invariant act step _ limit c holds
  | runUntil done limit => exact follow_invariant act step done limit c holds

end Drains

/-! ### What every chronicle keeps -/

/-- Items leave the queue for the turns, and what is posted joins the queue at its end; `first` is what waited
when the chronicle began. -/
def Conserved (first : List (Item τ)) (c : Chronicle σ τ) : Prop :=
  c.host.alive = true → c.turns.map Turn.item ++ c.host.queue.toList = first ++ c.posted

theorem perform_conserved {first : List (Item τ)} (c : Chronicle σ τ) (work : Work σ τ Unit)
    (conserved : c.Conserved first) : (c.perform work).Conserved first := by
  intro living
  simp only [perform, Host.perform_eq] at living ⊢
  rw [Fifo.toList_append, ← List.append_assoc, conserved living, List.append_assoc]

/-- A turn takes the item at the front of the queue; what that one posts comes last. -/
theorem step_queue {first : List (Item τ)} (act : Scope → τ → Work σ τ Unit) (c : Chronicle σ τ)
    (queued : c.turns.map Turn.item ++ c.host.queue.toList = first ++ c.posted) :
    (c.step act).turns.map Turn.item ++ (c.step act).host.queue.toList = first ++ (c.step act).posted := by
  cases front : c.host.queue.pop? with
  | none => simpa [step, front] using queued
  | some pair =>
      simp only [step, front, Host.execute_eq]
      rw [Fifo.toList_append, ← List.append_assoc first, ← queued, Fifo.toList_of_pop? front]
      simp
      rfl

theorem step_conserved {first : List (Item τ)} (act : Scope → τ → Work σ τ Unit) (c : Chronicle σ τ)
    (conserved : c.Conserved first) : (c.step act).Conserved first := by
  intro living
  apply step_queue act c
  apply conserved
  cases front : c.host.queue.pop? with
  | none => simpa [step, front] using living
  | some pair => simpa [step, front, Host.execute_eq] using living

theorem move_conserved {first : List (Item τ)} (act : Scope → τ → Work σ τ Unit) (c : Chronicle σ τ)
    (m : Move σ τ) (conserved : c.Conserved first) : (c.move act m).Conserved first := by
  cases m with
  | perform work => exact perform_conserved c work conserved
  | drain d => exact drain_invariant act (step_conserved act) d c conserved
  | close =>
      intro living
      cases living

theorem after_conserved {first : List (Item τ)} (act : Scope → τ → Work σ τ Unit) (moves : List (Move σ τ))
    (c : Chronicle σ τ) (conserved : c.Conserved first) : (c.after act moves).Conserved first := by
  induction moves generalizing c with
  | nil => exact conserved
  | cons m rest ih => exact ih (c.move act m) (move_conserved act c m conserved)

/-- Each turn is given the origin of its item and its place among all turns. -/
def Numbered (turns : List (Turn σ τ)) : Prop :=
  ∀ (k : Nat) (turn : Turn σ τ), turns[k]? = some turn →
    turn.scope = ⟨turn.item.origin, UInt64.ofNat k⟩

/-- Nothing is lost, doubled or overtaken, and turns are numbered in order. A host that is gone has
nothing left to run. -/
structure Kept (c : Chronicle σ τ) : Prop where
  conserved : c.host.alive = true → c.turns.map Turn.item ++ c.host.queue.toList = c.posted
  emptied : c.host.alive = false → c.host.queue.toList = []
  counted : c.host.seq = UInt64.ofNat c.turns.length
  numbered : Numbered c.turns

theorem start_kept (world : σ) : (start world : Chronicle σ τ).Kept where
  conserved := fun _ => rfl
  emptied := fun _ => rfl
  counted := rfl
  numbered := by simp [Numbered, start]

theorem perform_kept (c : Chronicle σ τ) (work : Work σ τ Unit) (kept : c.Kept) :
    (c.perform work).Kept := by
  have conserved : (c.perform work).Conserved [] := perform_conserved c work kept.conserved
  refine ⟨conserved, ?_, ?_, kept.numbered⟩
  · intro dead
    simp only [perform, Host.perform_eq] at dead ⊢
    simp [Host.accepts, dead, kept.emptied dead]
  · simp only [perform, Host.perform_eq]
    exact kept.counted

theorem numbered_append (turns : List (Turn σ τ)) (last : Turn σ τ) (numbered : Numbered turns)
    (next : last.scope = ⟨last.item.origin, UInt64.ofNat turns.length⟩) :
    Numbered (turns ++ [last]) := by
  intro k turn found
  -- a turn is an earlier one, the last one, or there is none at its place
  rcases Nat.lt_trichotomy k turns.length with early | here | late
  · rw [List.getElem?_append_left early] at found
    exact numbered k turn found
  · subst here
    simp only [List.getElem?_concat_length, Option.some.injEq] at found
    exact found ▸ next
  · rw [List.getElem?_eq_none (by simp; omega)] at found
    cases found

theorem step_kept (act : Scope → τ → Work σ τ Unit) (c : Chronicle σ τ) (kept : c.Kept) :
    (c.step act).Kept := by
  cases front : c.host.queue.pop? with
  | none => simpa [step, front] using kept
  | some pair =>
      have conserved : (c.step act).Conserved [] := step_conserved act c kept.conserved
      have queued := Fifo.toList_of_pop? front
      refine ⟨conserved, ?_, ?_, ?_⟩ <;> simp only [step, front, Host.execute_eq]
      · intro dead
        have nothing := kept.emptied dead
        rw [queued] at nothing
        cases nothing
      · rw [List.length_append, kept.counted]
        exact (UInt64.ofNat_add c.turns.length 1).symm
      · refine numbered_append _ _ kept.numbered ?_
        rw [← kept.counted]
        rfl

theorem move_kept (act : Scope → τ → Work σ τ Unit) (c : Chronicle σ τ) (m : Move σ τ) (kept : c.Kept) :
    (c.move act m).Kept := by
  cases m with
  | perform work => exact perform_kept c work kept
  | drain d => exact drain_invariant act (step_kept act) d c kept
  | close =>
      refine ⟨fun living => ?_, fun _ => rfl, kept.counted, kept.numbered⟩
      cases living

theorem after_kept (act : Scope → τ → Work σ τ Unit) (moves : List (Move σ τ)) (c : Chronicle σ τ)
    (kept : c.Kept) : (c.after act moves).Kept := by
  induction moves generalizing c with
  | nil => exact kept
  | cons m rest ih => exact ih (c.move act m) (move_kept act c m kept)

/-! ### The end of the host -/

theorem drain_of_empty (act : Scope → τ → Work σ τ Unit) (d : Drain σ) (c : Chronicle σ τ)
    (empty : c.host.queue.toList = []) : c.drain act d = c := by
  have idle : c.host.step? act = none := by simp [Host.step?, Fifo.pop?_eq_none.mpr empty]
  cases d <;> exact follow_idle act _ _ c idle

/-- What has run, what was posted, and that nothing waits: all of it stays as it is. -/
theorem move_gone (act : Scope → τ → Work σ τ Unit) (c : Chronicle σ τ) (m : Move σ τ)
    (gone : c.host.alive = false) (empty : c.host.queue.toList = []) :
    (c.move act m).host.alive = false ∧ (c.move act m).host.queue.toList = [] ∧
    (c.move act m).turns = c.turns ∧ (c.move act m).posted = c.posted := by
  cases m with
  | perform work =>
      simp [move, perform, Host.perform_eq, Host.accepts, gone, empty]
  | drain d => simp [move, drain_of_empty act d c empty, gone, empty]
  | close => exact ⟨rfl, rfl, rfl, rfl⟩

theorem after_gone (act : Scope → τ → Work σ τ Unit) (moves : List (Move σ τ)) (c : Chronicle σ τ)
    (gone : c.host.alive = false) (empty : c.host.queue.toList = []) :
    (c.after act moves).host.alive = false ∧ (c.after act moves).host.queue.toList = [] ∧
    (c.after act moves).turns = c.turns ∧ (c.after act moves).posted = c.posted := by
  induction moves generalizing c with
  | nil => exact ⟨gone, empty, rfl, rfl⟩
  | cons m rest ih =>
      obtain ⟨gone, empty, turns, posted⟩ := move_gone act c m gone empty
      rw [← turns, ← posted]
      exact ih (c.move act m) gone empty

/-! ### Panics -/

/-- The chronicle without the lines that were logged. -/
def quiet (c : Chronicle σ τ) : Chronicle σ τ := { c with host.log := [] }

/-- How items act when all their panics are taken away. -/
def calmly (act : Scope → τ → Work σ τ Unit) : Scope → τ → Work σ τ Unit :=
  fun scope task => (act scope task).calmed

theorem step_calmly (act : Scope → τ → Work σ τ Unit) (c d : Chronicle σ τ) (same : c.quiet = d.quiet) :
    (c.step (calmly act)).quiet = (d.step act).quiet := by
  obtain ⟨⟨world, queue, seq, log, alive⟩, posted, turns⟩ := c
  obtain ⟨⟨world', queue', seq', log', alive'⟩, posted', turns'⟩ := d
  simp only [quiet, Chronicle.mk.injEq, Host.mk.injEq, true_and] at same
  -- the two may differ in their logs alone, so the same item is next and finds the same world
  obtain ⟨⟨rfl, rfl, rfl, rfl⟩, rfl, rfl⟩ := same
  cases front : queue.pop? with
  | none => simp [step, front, quiet]
  | some pair =>
      simp [step, front, quiet, Host.execute_eq, Host.accepts, Host.scopeOf, calmly, Work.calmed_leave]

theorem follow_calmly (act : Scope → τ → Work σ τ Unit) (done : σ → Bool) (limit : Nat)
    (c d : Chronicle σ τ) (same : c.quiet = d.quiet) :
    (c.follow (calmly act) done limit).quiet = (d.follow act done limit).quiet := by
  induction limit generalizing c d with
  | zero => exact same
  | succ limit ih =>
      have world : c.host.world = d.host.world := congrArg (fun e => e.host.world) same
      by_cases holds : done d.host.world = true
      · simpa [follow, world, holds] using same
      · simpa [follow, world, holds] using ih _ _ (step_calmly act c d same)

theorem move_calmly (act : Scope → τ → Work σ τ Unit) (m : Move σ τ) (c d : Chronicle σ τ)
    (same : c.quiet = d.quiet) : (c.move (calmly act) m).quiet = (d.move act m).quiet := by
  cases m with
  | perform work =>
      obtain ⟨⟨world, queue, seq, log, alive⟩, posted, turns⟩ := c
      obtain ⟨⟨world', queue', seq', log', alive'⟩, posted', turns'⟩ := d
      simp only [quiet, Chronicle.mk.injEq, Host.mk.injEq, true_and] at same
      obtain ⟨⟨rfl, rfl, rfl, rfl⟩, rfl, rfl⟩ := same
      simp [move, perform, quiet, Host.perform_eq, Host.accepts]
  | drain drain => cases drain <;> exact follow_calmly act _ _ c d same
  | close =>
      simp only [quiet, Chronicle.mk.injEq, Host.mk.injEq, true_and] at same
      simp [move, close, quiet, Host.close, same]

theorem after_calmly (act : Scope → τ → Work σ τ Unit) (moves : List (Move σ τ)) (c d : Chronicle σ τ)
    (same : c.quiet = d.quiet) : (c.after (calmly act) moves).quiet = (d.after act moves).quiet := by
  induction moves generalizing c d with
  | nil => exact same
  | cons m rest ih => exact ih _ _ (move_calmly act m c d same)

/-! ### The whole account -/

theorem runFor_count (act : Scope → τ → Work σ τ Unit) (limit : Nat) (h : Host σ τ) :
    (h.runFor act limit).1 = (h.runPending act limit).1 := by
  simp [Host.runFor, runFor_eq_runPending]

/-- Whatever is done with a host and whatever its items do:
the turns so far, then what waits, are the items posted, in order, as long as the host is alive;
each turn is given its item's origin and its place among all turns;
the drains count the turns they make, and one that stops by itself leaves nothing behind;
without any panic all would have gone the same way, but for the log;
and nothing runs or is posted any more once the host is gone: where it is closed, what has run and what was posted stays
as it was then, and what waited is dropped. -/
theorem turns_conserved (act : Scope → τ → Work σ τ Unit) (world : σ) (moves : List (Move σ τ)) :
    let h := (Host.start world).after act moves
    let c := (start world).after act moves
    c.host = h ∧
    (h.alive = true →
      c.turns.map Turn.item ++ h.queue.toList = c.posted ∧
      h.pending + c.turns.length = c.posted.length) ∧
    (∀ (k : Nat) (turn : Turn σ τ), c.turns[k]? = some turn →
      turn.scope.origin = turn.item.origin ∧ turn.scope.seq.toNat = k % UInt64.size) ∧
    (∀ limit,
      (c.drain act (.runPending limit)).turns.length = c.turns.length + (h.runPending act limit).1 ∧
      (c.drain act (.runFor limit)).turns.length = c.turns.length + (h.runFor act limit).1 ∧
      ((h.runPending act limit).1 < limit → (h.runPending act limit).2.queue.toList = [])) ∧
    ((start world).after (calmly act) moves).quiet = c.quiet ∧
    (h.alive = false → ∀ later,
      (c.after act later).turns = c.turns ∧ (c.after act later).posted = c.posted ∧
      (c.after act later).host.queue.toList = []) ∧
    (∀ before later, moves = before ++ .close :: later →
      let closed := (start world).after act before
      c.turns = closed.turns ∧ c.posted = closed.posted ∧ h.alive = false ∧ h.queue.toList = []) := by
  intro h c
  have host : c.host = h := after_host act moves (start world)
  have kept : c.Kept := after_kept act moves (start world) (start_kept world)
  refine ⟨host, fun living => ?_, fun k turn found => ?_, fun limit => ⟨?_, ?_, ?_⟩, ?_, fun gone later => ?_, ?_⟩
  · rw [← host] at living ⊢
    have all := kept.conserved living
    refine ⟨all, ?_⟩
    have lengths := congrArg List.length all
    simp only [List.length_append, List.length_map, Fifo.length_toList] at lengths
    simp only [Host.pending]
    omega
  · have scope := kept.numbered k turn found
    simp [scope, UInt64.size]
  · rw [← host]
    exact (follow_runPending act limit c).2
  · rw [← host, runFor_count]
    exact (follow_runPending act limit c).2
  · exact runPending_empty act limit h
  · exact after_calmly act moves (start world) (start world) rfl
  · rw [← host] at gone
    obtain ⟨-, empty, turns, posted⟩ := after_gone act later c gone (kept.emptied gone)
    exact ⟨turns, posted, empty⟩
  · intro before later split closed
    -- what is done after the end is done with a host that is gone, on which nothing waits
    have onwards : c = (closed.move act .close).after act later := by
      simp only [c, closed, split, after, List.foldl_append, List.foldl_cons]
    obtain ⟨gone, empty, turns, posted⟩ := after_gone act later (closed.move act .close) rfl rfl
    rw [← onwards] at gone empty turns posted
    exact ⟨turns, posted, host ▸ gone, host ▸ empty⟩

/-- An item that counts down: it posts its successor, and panics at the end. -/
def countdown (_ : Scope) (n : Nat) : Work Nat Nat Unit := do
  Work.update (· + n)
  match n with
  | 0 => Work.panic (.text "over")
  | n + 1 => Work.post [⟨"again", n⟩]

/-- The host is closed while two items wait; nothing comes of them, nor of what is done afterwards. -/
theorem countdown_turns_conserved :
    let moves : List (Move Nat Nat) :=
      [.perform (Work.post [⟨"a", 2⟩, ⟨"b", 0⟩]), .drain (.runUntil (2 ≤ ·) 9), .drain (.runPending 2)]
    let h := (Host.start 0).after countdown moves
    let c := (start 0).after countdown moves
    let short : List (Move Nat Nat) := [.perform (Work.post [⟨"a", 2⟩, ⟨"b", 0⟩]), .drain (.runPending 1)]
    let late : List (Move Nat Nat) := [.perform (Work.post [⟨"late", 7⟩]), .drain (.runPending 9)]
    let ended := (start 0).after countdown (short ++ .close :: late)
    (h.alive = true ∧ c.turns.map Turn.item ++ h.queue.toList = c.posted ∧
      c.turns.map (fun turn => turn.item.task) = [2, 0, 1] ∧
      h.queue.toList.map Item.task = [0] ∧
      c.turns[2]?.map (fun turn => turn.scope) = some ⟨"again", 2⟩) ∧
    (((start 0).after countdown short).host.queue.toList.map Item.task = [0, 1] ∧
      ended.turns.map (fun turn => turn.item.task) = [2] ∧ ended.posted.map Item.task = [2, 0, 1] ∧
      ((Host.start 0).after countdown (short ++ .close :: late)).queue.toList = []) := by
  intro moves h c short late ended
  have account := turns_conserved countdown 0 moves
  have living : h.alive = true := rfl
  obtain ⟨-, -, -, -, -, -, closing⟩ := turns_conserved countdown 0 (short ++ .close :: late)
  obtain ⟨turns, posted, -, empty⟩ := closing short late rfl
  refine ⟨⟨living, (account.2.1 living).1, rfl, rfl, rfl⟩, rfl, ?_, ?_, empty⟩
  · rw [turns]
    rfl
  · rw [posted]
    rfl

end Chronicle

end SpokenIntent
