import SpokenIntent.Host.Log

/-!
Work: code that runs on the host. It reads and changes the world it can see, posts items for later,
writes log lines, and may panic; what it did before a panic stays done. It cannot see the queue, so
nothing it does can take back, reorder or duplicate what waits there.
-/

namespace SpokenIntent

/-- What a running item knows of itself: who posted it, and its position among all items run. -/
structure Scope where
  origin : String
  seq : UInt64
  deriving DecidableEq

/-- Something to be done on the host, posted under the name of its origin. -/
structure Item (τ : Type) where
  origin : String
  task : τ

def Item.map {τ υ : Type} (f : τ → υ) (item : Item τ) : Item υ :=
  ⟨item.origin, f item.task⟩

/-- The world as a piece of work leaves it, with the items it posted and the lines it logged, both in
order. -/
structure Effects (σ τ : Type) where
  world : σ
  posted : List (Item τ)
  log : List LogEntry

abbrev Work (σ τ α : Type) := EStateM Panic (Effects σ τ) α

namespace Work

variable {σ τ α : Type}

def read : Work σ τ σ := fun e => .ok e.world e

def update (f : σ → σ) : Work σ τ Unit := fun e => .ok () { e with world := f e.world }

def post (items : List (Item τ)) : Work σ τ Unit := fun e =>
  .ok () { e with posted := e.posted ++ items }

def report (entry : LogEntry) : Work σ τ Unit := fun e =>
  .ok () { e with log := e.log ++ [entry] }

def panic (p : Panic) : Work σ τ α := fun e => .error p e

def panicIf : Option Panic → Work σ τ Unit
  | none => pure ()
  | some p => panic p

/-- Runs `work` and goes on after a panic, which becomes the result. -/
def attempt (work : Work σ τ α) : Work σ τ (Except Panic α) := fun e =>
  match work e with
  | .ok a e => .ok (.ok a) e
  | .error p e => .ok (.error p) e

/-- Work on a part of the world, whose items are tagged on their way to the queue. -/
def within {ρ υ : Type} (part : σ → ρ) (setPart : ρ → σ → σ) (tag : υ → τ) (work : Work ρ υ α) :
    Work σ τ α := fun e =>
  let absorb (inner : Effects ρ υ) : Effects σ τ :=
    ⟨setPart inner.world e.world, e.posted ++ inner.posted.map (Item.map tag), e.log ++ inner.log⟩
  match work ⟨part e.world, [], []⟩ with
  | .ok a inner => .ok a (absorb inner)
  | .error p inner => .error p (absorb inner)

/-- Work on a world of its own, which comes back as the result. A panic takes that world along; what was
posted and logged by then stays. -/
def apart {ρ : Type} (world : ρ) (work : Work ρ τ Unit) : Work σ τ ρ := fun e =>
  match work ⟨world, e.posted, e.log⟩ with
  | .ok () inner => .ok inner.world { e with posted := inner.posted, log := inner.log }
  | .error p inner => .error p { e with posted := inner.posted, log := inner.log }

end Work

end SpokenIntent
