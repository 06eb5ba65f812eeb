import SpokenIntent.Host.Fifo
import SpokenIntent.Host.Work

/-!
The host: one place where items run one at a time, in the order in which they were posted. Items are
numbered as they run. A panic ends the item that caused it and is logged; the next item runs all the
same.

How an item acts is a parameter, `act`. Items may post more items, so a drain need not end; each
drain takes the number of items it may run at most.
-/

namespace SpokenIntent

structure Host (σ τ : Type) where
  world : σ
  queue : Fifo (Item τ)
  seq : UInt64
  log : List LogEntry
  alive : Bool

namespace Host

variable {σ τ α : Type}

def start (world : σ) : Host σ τ := ⟨world, Fifo.empty, 0, [], true⟩

def pending (h : Host σ τ) : Nat := h.queue.size

/-- Takes up what a piece of work has done. A host that is gone takes no items. -/
def absorb (h : Host σ τ) (e : Effects σ τ) : Host σ τ :=
  { h with
    world := e.world
    queue := if h.alive then h.queue.append e.posted else h.queue
    log := h.log ++ e.log }

def perform (h : Host σ τ) (work : Work σ τ α) : Except Panic α × Host σ τ :=
  match work ⟨h.world, [], []⟩ with
  | .ok a e => (.ok a, h.absorb e)
  | .error p e => (.error p, h.absorb e)

/-- Ends the host: what waits is dropped, and nothing is taken from then on. -/
def close (h : Host σ τ) : Host σ τ :=
  { h with queue := Fifo.empty, alive := false }

def execute (act : Scope → τ → Work σ τ Unit) (h : Host σ τ) (item : Item τ) : Host σ τ :=
  let scope : Scope := ⟨item.origin, h.seq⟩
  match { h with seq := h.seq + 1 }.perform (act scope item.task) with
  | (.ok (), h) => h
  | (.error p, h) => { h with log := h.log ++ [.itemPanicked scope.origin scope.seq p] }

def step? (act : Scope → τ → Work σ τ Unit) (h : Host σ τ) : Option (Host σ τ) :=
  match h.queue.pop? with
  | none => none
  | some (item, rest) => some (execute act { h with queue := rest } item)

/-- Runs items until none waits, those posted meanwhile included, and counts them. -/
def runPending (act : Scope → τ → Work σ τ Unit) : Nat → Host σ τ → Nat × Host σ τ
  | 0, h => (0, h)
  | limit + 1, h =>
    match h.step? act with
    | none => (0, h)
    | some h =>
      let (n, h) := runPending act limit h
      (n + 1, h)

/-- What a conditional drain reports: whether the condition held at the end, and how often it was
asked. -/
structure Watch where
  done : Bool
  checks : Nat
  deriving DecidableEq

/-- Runs items until `done` holds, asking before the first item and after each. When no item is left
the drain has waited in vain, and asks once more. It has asked `checks` times before. -/
def runUntilFrom (act : Scope → τ → Work σ τ Unit) (done : σ → Bool) :
    Nat → Nat → Host σ τ → Watch × Host σ τ
  | 0, checks, h => (⟨done h.world, checks + 1⟩, h)
  | limit + 1, checks, h =>
    if done h.world then (⟨true, checks + 1⟩, h)
    else
      match h.step? act with
      | none => (⟨done h.world, checks + 2⟩, h)
      | some h => runUntilFrom act done limit (checks + 1) h

/-- Runs items until `done` holds or none is left. -/
def runUntil (act : Scope → τ → Work σ τ Unit) (done : σ → Bool) (limit : Nat) (h : Host σ τ) :
    Watch × Host σ τ :=
  runUntilFrom act done limit 0 h

/-- Runs items as they come until the time is up, which it is when none is left; `ran` have run
before. -/
def runForFrom (act : Scope → τ → Work σ τ Unit) : Nat → Nat → Host σ τ → Nat × Host σ τ
  | 0, ran, h => (ran, h)
  | limit + 1, ran, h =>
    match h.step? act with
    | none => (ran, h)
    | some h => runForFrom act limit (ran + 1) h

/-- Runs items as they come and counts them. -/
def runFor (act : Scope → τ → Work σ τ Unit) (limit : Nat) (h : Host σ τ) : Nat × Host σ τ :=
  runForFrom act limit 0 h

end Host

end SpokenIntent
