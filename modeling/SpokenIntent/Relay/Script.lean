import SpokenIntent.Dict
import SpokenIntent.Host.Loop
import SpokenIntent.Relay.Slot

/-!
Host code that works with relays, and a stage on which it runs. Host code is anything that can be
called as a callback, as the builder of a payload or as a task; what it does then is a list of acts,
and a panic where it has one.
-/

namespace SpokenIntent.RelayScript

variable {κ P : Type}

/-- Which relay is meant: the current one of a slot, or one that was kept under a name. -/
inductive Target where
  | slot (name : String)
  | held (name : String)

inductive Act (κ : Type) where
  | set (slot : String) (code : κ)
  | clear (slot : String)
  | isSet (slot : String)
  | hold (slot : String) (as : String)
  | release (as : String)
  | call (target : Target) (builder : κ)
  | post (origin : String) (task : κ)
  | inspect

/-- What a piece of code does when it is run: acts in order, then possibly a panic. -/
structure Script (κ : Type) where
  acts : List (Act κ)
  panic : Option Panic

/-- What happens on the stage: a delivery is asked for, or a piece of code runs in one of its roles. -/
inductive Happening (κ P : Type) where
  | asked (relay : Relay κ) (builder : κ)
  | builder (code : κ) (scope : Scope)
  | callback (code : κ) (payload : P)
  | task (code : κ) (scope : Scope)

/-- Slots and the relays that are kept, with all that has happened, in order. -/
structure Stage (κ P : Type) where
  slots : List (Slot κ)
  held : List (String × Relay κ)
  history : List (Happening κ P)

/-- How pieces of code act in their three roles. What they do may hang on all that has happened. -/
structure Conduct (κ P : Type) where
  callback : Stage κ P → κ → P → Script κ
  builder : Stage κ P → κ → Scope → Script κ × Except PayloadError P
  task : Stage κ P → κ → Scope → Script κ

/-- How pieces of code behave that go by what they are given alone. -/
structure Behaviour (κ P : Type) where
  callback : κ → P → Script κ
  builder : κ → Scope → Script κ × Except PayloadError P
  task : κ → Scope → Script κ

def Behaviour.conduct (b : Behaviour κ P) : Conduct κ P :=
  ⟨fun _ => b.callback, fun _ => b.builder, fun _ => b.task⟩

inductive Call (κ P : Type) where
  | callback (code : κ) (payload : P)
  | task (scope : Scope)

def Happening.call? : Happening κ P → Option (Call κ P)
  | .asked _ _ => none
  | .builder _ _ => none
  | .callback code payload => some (.callback code payload)
  | .task _ scope => some (.task scope)

inductive Task (κ : Type) where
  | deliver (relay : Relay κ) (builder : κ)
  | code (task : κ)

inductive Reply where
  | nothing
  | flag (b : Bool)
  | flags (a b : Bool)
  | text (s : String)
  deriving DecidableEq

namespace Stage

def start (names : List String) : Stage κ P := ⟨names.map Slot.empty, [], []⟩

def slot? (s : Stage κ P) (name : String) : Option (Slot κ) :=
  s.slots.find? (·.name == name)

def relay? (s : Stage κ P) : Target → Option (Relay κ)
  | .slot name => (s.slot? name).bind Slot.current
  | .held name => Dict.get? name s.held

def updateSlot (s : Stage κ P) (name : String) (f : Slot κ → Slot κ) : Stage κ P :=
  { s with slots := s.slots.map fun slot => if slot.name == name then f slot else slot }

def note (s : Stage κ P) (happening : Happening κ P) : Stage κ P :=
  { s with history := s.history ++ [happening] }

def calls (s : Stage κ P) : List (Call κ P) := s.history.filterMap Happening.call?

end Stage

/-- Does one act. An act of its own never panics. -/
def Act.run : Act κ → Work (Stage κ P) (Task κ) Reply
  | .set slot code => do
    Work.update (·.updateSlot slot (·.set code))
    pure .nothing
  | .clear slot => do
    Work.update (·.updateSlot slot Slot.clear)
    pure .nothing
  | .isSet slot => do
    let set := ((← Work.read).slot? slot).any Slot.isSet
    pure (.flags set ((← Work.read).relay? (.slot slot)).isSome)
  | .hold slot as => do
    match (← Work.read).relay? (.slot slot) with
    | none => pure .nothing
    | some relay =>
      Work.update fun s => { s with held := (as, relay) :: s.held }
      pure (.text relay.describe)
  | .release as => do
    let kept := ((← Work.read).relay? (.held as)).isSome
    Work.update fun s => { s with held := s.held.filter (·.1 != as) }
    pure (.flag kept)
  | .call target builder => do
    match (← Work.read).relay? target with
    | none => pure (.flag false)
    | some relay =>
      Work.update (·.note (.asked relay builder))
      Work.post [⟨relay.name, .deliver relay builder⟩]
      pure (.flag true)
  | .post origin task => do
    Work.post [⟨origin, .code task⟩]
    pure .nothing
  | .inspect => pure .nothing

def runActs : List (Act κ) → Work (Stage κ P) (Task κ) Unit
  | [] => pure ()
  | act :: rest => do
    let _ ← act.run
    runActs rest

def Script.run (script : Script κ) : Work (Stage κ P) (Task κ) Unit := do
  runActs script.acts
  Work.panicIf script.panic

namespace Conduct

def runCallback (code : Conduct κ P) (callback : κ) (payload : P) :
    Work (Stage κ P) (Task κ) Unit := do
  Work.update (·.note (.callback callback payload))
  (code.callback (← Work.read) callback payload).run

def runBuilder (code : Conduct κ P) (builder : κ) (scope : Scope) :
    Work (Stage κ P) (Task κ) (Except PayloadError P) := do
  Work.update (·.note (.builder builder scope))
  let (script, outcome) := code.builder (← Work.read) builder scope
  script.run
  pure outcome

def runTask (code : Conduct κ P) (task : κ) (scope : Scope) : Work (Stage κ P) (Task κ) Unit := do
  Work.update (·.note (.task task scope))
  (code.task (← Work.read) task scope).run

end Conduct

def Task.run (code : Conduct κ P) (scope : Scope) : Task κ → Work (Stage κ P) (Task κ) Unit
  | .deliver relay builder => relay.deliver code.runCallback (code.runBuilder builder) scope
  | .code task => code.runTask task scope

inductive Step (κ : Type) where
  | act (a : Act κ)
  | describe
  | pending
  | runPending
  | runFor
  | runUntil (calls : Nat)
  | close

inductive Answer where
  | reply (r : Reply)
  | count (n : Nat)
  | watched (w : Host.Watch) (pending : Nat)
  | noHost

abbrev Session (κ P : Type) := Host (Stage κ P) (Task κ)

def drainLimit : Nat := 1000000

def forget (h : Session κ P) : Session κ P :=
  { h with world.history := [], log := [] }

def describeHandle (h : Session κ P) : String :=
  s!"HostHandle \x7b queued: {h.pending} \x7d"

def Step.play (code : Conduct κ P) (h : Session κ P) : Step κ → Answer × Session κ P
  | .act a =>
    match h.perform a.run with
    | (.ok reply, h) => (.reply reply, h)
    | (.error _, h) => (.reply .nothing, h)
  | .describe => (.reply (.text (describeHandle h)), h)
  | .pending => if h.alive then (.count h.pending, h) else (.noHost, h)
  | .runPending =>
    if h.alive then
      let (n, h) := h.runPending (Task.run code) drainLimit
      (.count n, h)
    else (.noHost, h)
  | .runFor =>
    if h.alive then
      let (n, h) := h.runFor (Task.run code) drainLimit
      (.count n, h)
    else (.noHost, h)
  | .runUntil calls =>
    if h.alive then
      let enough := h.world.calls.length + calls
      let (watch, h) := h.runUntil (Task.run code) (fun s => enough ≤ s.calls.length) drainLimit
      (.watched watch h.pending, h)
    else (.noHost, h)
  | .close => (.reply .nothing, h.close)

/-- A step among code that goes by what it is given alone. -/
def Step.run (code : Behaviour κ P) (h : Session κ P) (step : Step κ) : Answer × Session κ P :=
  step.play code.conduct h

end SpokenIntent.RelayScript
