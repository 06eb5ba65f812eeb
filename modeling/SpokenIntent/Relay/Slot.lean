import SpokenIntent.Host.Work
import SpokenIntent.Text.Quoted

/-!
Relays and the slots that hold them. A relay is a callback under a name. An item that delivers
through a relay keeps the relay itself, so replacing or clearing the slot does not touch deliveries
under way: each goes to the callback that was current when it was posted.
-/

namespace SpokenIntent

/-- A callback of kind `κ` under the name by which its deliveries are known. -/
structure Relay (κ : Type) where
  name : String
  callback : κ

/-- Room for at most one relay; setting replaces. -/
structure Slot (κ : Type) where
  name : String
  current : Option (Relay κ)

namespace Slot

variable {κ : Type}

def empty (name : String) : Slot κ := ⟨name, none⟩

def set (slot : Slot κ) (callback : κ) : Slot κ :=
  { slot with current := some ⟨slot.name, callback⟩ }

def clear (slot : Slot κ) : Slot κ :=
  { slot with current := none }

def isSet (slot : Slot κ) : Bool := slot.current.isSome

end Slot

namespace Relay

variable {κ σ τ P : Type}

/-- A delivery as it runs: `build` makes the payload, then `invoke` hands it to the callback. A
payload that cannot be built drops this delivery; a panic of the callback is logged. Nothing gets
out of a delivery. -/
def deliver (relay : Relay κ) (invoke : κ → P → Work σ τ Unit)
    (build : Scope → Work σ τ (Except PayloadError P)) (scope : Scope) : Work σ τ Unit := do
  match ← (build scope).attempt with
  | .error p => Work.report (.eventDropped relay.name scope.seq (.panicked p.message))
  | .ok (.error e) => Work.report (.eventDropped relay.name scope.seq e)
  | .ok (.ok payload) =>
    match ← (invoke relay.callback payload).attempt with
    | .error p => Work.report (.callbackPanicked relay.name scope.seq p)
    | .ok () => pure ()

/-- The status text of a relay; its callback does not show. -/
def describe (relay : Relay κ) : String :=
  "CallbackRelay \x7b name: " ++ Text.quote relay.name ++ ", .. \x7d"

end Relay

end SpokenIntent
