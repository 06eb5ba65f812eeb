import SpokenIntent.Host.Loop

/-!
What a piece of work leaves behind, and what becomes of a host that takes it up. Only three things
count for a host: the world, the items posted and the lines logged, and whether the work panicked. What
every item keeps a drain keeps.
-/

namespace SpokenIntent

@[simp] theorem Item.map_id {τ : Type} : (Item.map id : Item τ → Item τ) = id := rfl

namespace Work

variable {σ τ α β : Type}

/-! ### How work runs -/

theorem bind_apply (work : Work σ τ α) (next : α → Work σ τ β) (e : Effects σ τ) :
    (work >>= next) e =
      match work e with
      | .ok a e => next a e
      | .error p e => .error p e := by
  simp only [bind, EStateM.bind]
  cases work e <;> rfl

theorem map_apply (f : α → β) (work : Work σ τ α) (e : Effects σ τ) :
    (f <$> work) e =
      match work e with
      | .ok a e => .ok (f a) e
      | .error p e => .error p e := by
  simp only [Functor.map, EStateM.map]
  cases work e <;> rfl

@[simp] theorem pure_apply (a : α) (e : Effects σ τ) : (pure a : Work σ τ α) e = .ok a e := rfl

@[simp] theorem read_apply (e : Effects σ τ) : (read : Work σ τ σ) e = .ok e.world e := rfl

@[simp] theorem update_apply (f : σ → σ) (e : Effects σ τ) :
    (update f : Work σ τ Unit) e = .ok () { e with world := f e.world } := rfl

@[simp] theorem post_apply (items : List (Item τ)) (e : Effects σ τ) :
    (post items : Work σ τ Unit) e = .ok () { e with posted := e.posted ++ items } := rfl

@[simp] theorem report_apply (entry : LogEntry) (e : Effects σ τ) :
    (report entry : Work σ τ Unit) e = .ok () { e with log := e.log ++ [entry] } := rfl

@[simp] theorem panicIf_none (e : Effects σ τ) : (panicIf none : Work σ τ Unit) e = .ok () e := rfl

@[simp] theorem panicIf_some (p : Panic) (e : Effects σ τ) :
    (panicIf (some p) : Work σ τ Unit) e = .error p e := rfl

theorem attempt_apply (work : Work σ τ α) (e : Effects σ τ) :
    work.attempt e =
      match work e with
      | .ok a e => .ok (.ok a) e
      | .error p e => .ok (.error p) e := by
  cases ran : work e <;> simp only [attempt, ran]

/-! ### What work leaves behind -/

/-- What work leaves behind when it finds `world`, whether or not it panics. -/
def leave (work : Work σ τ α) (world : σ) : Effects σ τ :=
  match work ⟨world, [], []⟩ with
  | .ok _ e => e
  | .error _ e => e

theorem within_leave {ρ υ : Type} (part : σ → ρ) (setPart : ρ → σ → σ) (tag : υ → τ) (work : Work ρ υ α)
    (world : σ) :
    let left := work.leave (part world)
    (within part setPart tag work).leave world =
      ⟨setPart left.world world, left.posted.map (Item.map tag), left.log⟩ := by
  simp only [leave, within]
  cases work ⟨part world, [], []⟩ <;> rfl

@[simp] theorem within_pure {ρ υ : Type} (part : σ → ρ) (setPart : ρ → σ → σ) (tag : υ → τ) (a : α)
    (e : Effects σ τ) :
    within part setPart tag (pure a) e = .ok a { e with world := setPart (part e.world) e.world } := by
  simp [within]

theorem leave_read (next : σ → Work σ τ α) (world : σ) :
    (read >>= next).leave world = (next world).leave world := by
  simp only [leave, bind_apply, read_apply]

/-- What only makes something of the result leaves no more behind. -/
theorem leave_then (work : Work σ τ α) (next : α → Work σ τ β) (world : σ)
    (idle : ∀ a e, ∃ b, next a e = .ok b e) : (work >>= next).leave world = work.leave world := by
  simp only [leave, bind_apply]
  cases work ⟨world, [], []⟩ with
  | error p e => rfl
  | ok a e =>
      obtain ⟨b, same⟩ := idle a e
      simp only [same]

theorem leave_pure (work : Work σ τ α) (f : α → β) (world : σ) :
    (work >>= fun a => pure (f a)).leave world = work.leave world :=
  leave_then work _ world fun a _ => ⟨f a, rfl⟩

/-- The panic that work ends with when it finds `world`. -/
def panic? (work : Work σ τ α) (world : σ) : Option Panic :=
  match work ⟨world, [], []⟩ with
  | .ok _ _ => none
  | .error p _ => some p

/-- The same work without its result. -/
def ignored (work : Work σ τ α) : Work σ τ Unit := do
  let _ ← work

theorem ignored_leave (work : Work σ τ α) (world : σ) : work.ignored.leave world = work.leave world := by
  simp only [leave, ignored, bind_apply]
  cases work ⟨world, [], []⟩ <;> rfl

/-- The same work with its panic taken away. -/
def calmed (work : Work σ τ Unit) : Work σ τ Unit := do
  let _ ← work.attempt

theorem calmed_leave (work : Work σ τ Unit) (world : σ) : work.calmed.leave world = work.leave world := by
  simp only [leave, calmed, bind_apply, attempt_apply]
  cases work ⟨world, [], []⟩ <;> rfl

/-! ### Work that adds to what was there -/

/-- What two pieces of work have left behind, the second after the first. -/
def followedBy (before e : Effects σ τ) : Effects σ τ :=
  ⟨e.world, before.posted ++ e.posted, before.log ++ e.log⟩

def carry (before : Effects σ τ) :
    EStateM.Result Panic (Effects σ τ) α → EStateM.Result Panic (Effects σ τ) α
  | .ok a e => .ok a (followedBy before e)
  | .error p e => .error p (followedBy before e)

/-- Work that goes by the world alone, and adds to what was posted and logged before. -/
def Framed (work : Work σ τ α) : Prop :=
  ∀ e, work e = carry e (work ⟨e.world, [], []⟩)

theorem carry_carry (first second : Effects σ τ) (r : EStateM.Result Panic (Effects σ τ) α) :
    carry first (carry second r) = carry (followedBy first second) r := by
  cases r <;> simp [carry, followedBy]

theorem framed_pure (a : α) : Framed (pure a : Work σ τ α) := by
  intro e
  simp [carry, followedBy]

theorem framed_read : Framed (read : Work σ τ σ) := by
  intro e
  simp [carry, followedBy]

theorem framed_update (f : σ → σ) : Framed (update f : Work σ τ Unit) := by
  intro e
  simp [carry, followedBy]

theorem framed_within {ρ υ : Type} (part : σ → ρ) (setPart : ρ → σ → σ) (tag : υ → τ)
    (work : Work ρ υ α) : Framed (within part setPart tag work) := by
  intro e
  simp only [within]
  cases work ⟨part e.world, [], []⟩ <;> simp [carry, followedBy]

theorem framed_panicIf (panic : Option Panic) : Framed (panicIf panic : Work σ τ Unit) := by
  intro e
  cases panic <;> simp [carry, followedBy]

theorem framed_bind {work : Work σ τ α} {next : α → Work σ τ β} (first : Framed work)
    (second : ∀ a, Framed (next a)) : Framed (work >>= next) := by
  intro e
  rw [bind_apply, bind_apply, first e]
  cases work ⟨e.world, [], []⟩ with
  | error p left => rfl
  | ok a left =>
      show next a (followedBy e left) = carry e (next a left)
      rw [second a (followedBy e left), second a left, carry_carry]
      rfl

end Work

namespace Host

variable {σ τ α : Type}

/-- The items that a host takes from what work has left behind. -/
def accepts (h : Host σ τ) (e : Effects σ τ) : List (Item τ) := if h.alive then e.posted else []

theorem perform_eq (h : Host σ τ) (work : Work σ τ α) :
    let left := work.leave h.world
    (h.perform work).2 =
      { h with
        world := left.world
        queue := h.queue.append (h.accepts left)
        log := h.log ++ left.log } := by
  simp only [perform, Work.leave, absorb, accepts]
  cases work ⟨h.world, [], []⟩ <;> cases h.alive <;> simp [Fifo.append]

theorem perform_pure (h : Host σ τ) (a : α) : h.perform (pure a) = (.ok a, h) := by
  obtain ⟨world, queue, seq, log, alive⟩ := h
  cases alive <;> simp [perform, absorb, Fifo.append]

/-- What is done with a result changes nothing else. -/
theorem perform_bind_pure {β : Type} (h : Host σ τ) (work : Work σ τ α) (f : α → β) :
    h.perform (work >>= fun a => pure (f a)) = ((h.perform work).1.map f, (h.perform work).2) := by
  simp only [perform, Work.bind_apply]
  cases work ⟨h.world, [], []⟩ <;> rfl

theorem perform_update (h : Host σ τ) (f : σ → σ) :
    h.perform (Work.update f) = (.ok (), { h with world := f h.world }) := by
  obtain ⟨world, queue, seq, log, alive⟩ := h
  cases alive <;> simp [perform, absorb, Fifo.append]

theorem perform_panicIf (h : Host σ τ) (panic : Option Panic) :
    (h.perform (Work.panicIf panic)).2 = h := by
  obtain ⟨world, queue, seq, log, alive⟩ := h
  cases panic <;> cases alive <;> simp [perform, absorb, Fifo.append]

/-- Two pieces of work one after the other, the second of which adds to what the first has left. -/
theorem perform_bind {β : Type} (h : Host σ τ) (work : Work σ τ α) (next : α → Work σ τ β)
    (framed : ∀ a, Work.Framed (next a)) :
    h.perform (work >>= next) =
      match h.perform work with
      | (.ok a, h) => h.perform (next a)
      | (.error p, h) => (.error p, h) := by
  obtain ⟨world, queue, seq, log, alive⟩ := h
  simp only [perform, Work.bind_apply]
  cases work ⟨world, [], []⟩ with
  | error p left => rfl
  | ok a left =>
      simp only [absorb, framed a left]
      cases next a ⟨left.world, [], []⟩ <;> cases alive <;>
        simp [Work.carry, Work.followedBy, Fifo.append]

/-- What an item is told when its turn comes. -/
def scopeOf (h : Host σ τ) (item : Item τ) : Scope := ⟨item.origin, h.seq⟩

/-- Running an item takes one number and takes up what the item leaves. A panic adds a line, no more. -/
theorem execute_eq (act : Scope → τ → Work σ τ Unit) (h : Host σ τ) (item : Item τ) :
    let work := act (h.scopeOf item) item.task
    let left := work.leave h.world
    execute act h item =
      { h with
        world := left.world
        queue := h.queue.append (h.accepts left)
        seq := h.seq + 1
        log := h.log ++ (left.log ++ (work.panic? h.world).toList.map (.itemPanicked item.origin h.seq)) } := by
  simp only [execute, perform, scopeOf, Work.leave, Work.panic?, absorb, accepts]
  cases act ⟨item.origin, h.seq⟩ item.task ⟨h.world, [], []⟩ <;> cases h.alive <;>
    simp [Fifo.append]

/-! ### Drains -/

section Drains
variable {act : Scope → τ → Work σ τ Unit} {P : Host σ τ → Prop} {h : Host σ τ}

theorem step?_eq_none : h.step? act = none ↔ h.queue.toList = [] := by
  rw [← Fifo.pop?_eq_none, step?]
  cases h.queue.pop? <;> simp

theorem step?_eq_some {next : Host σ τ} (stepped : h.step? act = some next) :
    ∃ item rest, h.queue.toList = item :: rest.toList ∧ next = execute act { h with queue := rest } item := by
  rw [step?] at stepped
  cases front : h.queue.pop? with
  | none => simp [front] at stepped
  | some pair =>
      simp only [front, Option.some.injEq] at stepped
      exact ⟨pair.1, pair.2, Fifo.toList_of_pop? front, stepped.symm⟩

theorem pending_eq (h : Host σ τ) : h.pending = h.queue.toList.length := by
  rw [pending, Fifo.length_toList]

/-- A conditional drain reports whether the condition holds where it ends. -/
theorem runUntilFrom_done (done : σ → Bool) (limit checks : Nat) (h : Host σ τ) :
    (runUntilFrom act done limit checks h).1.done = done (runUntilFrom act done limit checks h).2.world := by
  induction limit generalizing checks h with
  | zero => rfl
  | succ limit ih =>
      by_cases holds : done h.world = true
      · simp [runUntilFrom, holds]
      · cases stepped : h.step? act with
        | none => simp [runUntilFrom, holds, stepped]
        | some next => simp [runUntilFrom, holds, stepped, ih]

/-- What each item keeps a drain keeps. -/
theorem runPending_keeps (step : ∀ h next, P h → h.step? act = some next → P next) (limit : Nat) (holds : P h) :
    P (h.runPending act limit).2 := by
  induction limit generalizing h with
  | zero => exact holds
  | succ limit ih =>
      cases stepped : h.step? act with
      | none =>
          simp only [runPending, stepped]
          exact holds
      | some next =>
          simp only [runPending, stepped]
          exact ih (step h next holds stepped)

/-- Where no item posts another, a drain that may run as many items as wait runs them all, and no other. -/
theorem runPending_all (step : ∀ h next, P h → h.step? act = some next → P next ∧ next.pending + 1 = h.pending)
    {limit : Nat} (holds : P h) (enough : h.pending ≤ limit) :
    (h.runPending act limit).1 = h.pending ∧ (h.runPending act limit).2.queue.toList = [] := by
  induction limit generalizing h with
  | zero =>
      have idle : h.pending = 0 := Nat.le_zero.mp enough
      rw [pending_eq, List.length_eq_zero_iff] at idle
      simp [runPending, pending_eq, idle]
  | succ limit ih =>
      cases stepped : h.step? act with
      | none =>
          have idle := step?_eq_none.mp stepped
          simp [runPending, stepped, pending_eq, idle]
      | some next =>
          obtain ⟨kept, fewer⟩ := step h next holds stepped
          obtain ⟨count, empty⟩ := ih kept (by omega)
          simp only [runPending, stepped, count, fewer, empty, and_self]

end Drains

end Host

end SpokenIntent
