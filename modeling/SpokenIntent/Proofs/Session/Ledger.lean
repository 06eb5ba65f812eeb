import SpokenIntent.Session.Script

/-!
What a bridge owes, kept without a queue and without a flag: the callback of each kind, whether the
bridge has been let go, the events that it has heard, and every delivery that is due. The ledger is read
off the history of a stage alone. What a queue holds is read off beside it.
-/

namespace SpokenIntent.BridgeScript

variable {κ : Type}

structure Ledger (κ : Type) where
  callbacks : Channel → Option κ
  gone : Bool
  heard : List EngineEvent
  due : List (κ × Payload)

namespace Ledger

def blank : Ledger κ := ⟨fun _ => none, false, [], []⟩

/-- An event reaches the bridge. It is due to the callback that is set for its kind at that moment; with
none set it is due to nobody. Once the bridge is gone it is not heard. -/
def hear (l : Ledger κ) (event : EngineEvent) : Ledger κ :=
  if l.gone then l
  else
    { l with
      heard := l.heard ++ [event]
      due := l.due ++ (l.callbacks event.channel).toList.map fun callback => (callback, event.payload) }

def set (l : Ledger κ) (channel : Channel) (callback : κ) : Ledger κ :=
  if l.gone then l
  else
    { l with
      callbacks := fun other => if other = channel then some callback else l.callbacks other }

/-- What a happening adds. An event that found no receiver has not been fired. -/
def enter (l : Ledger κ) : Happening κ → Ledger κ
  | .acted _ (.on channel callback) _ => l.set channel callback
  | .acted _ (.fire event _) (.flag true) => l.hear event
  | .acted _ .letGo _ => { l with gone := true }
  | _ => l

def of (history : List (Happening κ)) : Ledger κ := history.foldl enter blank

/-- The events that begin or end a session, in the order in which they were heard. -/
def lifecycle (l : Ledger κ) : List EngineEvent := l.heard.filter fun event => event.sessionRuns?.isSome

/-- What is to be told of the session. -/
def announced (l : Ledger κ) : List Bool := l.heard.filterMap EngineEvent.sessionRuns?

theorem of_append (history more : List (Happening κ)) :
    of (history ++ more) = more.foldl enter (of history) := by
  simp [of]

theorem enter_heard (l : Ledger κ) (happening : Happening κ) : l.heard ⊆ (l.enter happening).heard := by
  unfold enter
  split
  · unfold set
    split <;> exact List.Subset.refl _
  · unfold hear
    split
    · exact List.Subset.refl _
    · exact List.subset_append_left _ _
  · exact List.Subset.refl _
  · exact List.Subset.refl _

theorem heard_grows (l : Ledger κ) (more : List (Happening κ)) : l.heard ⊆ (more.foldl enter l).heard := by
  induction more generalizing l with
  | nil => exact List.Subset.refl _
  | cons happening rest ih => exact List.Subset.trans (enter_heard l happening) (ih (l.enter happening))

theorem lifecycle_announced (l : Ledger κ) :
    l.lifecycle.map EngineEvent.sessionRuns? = l.announced.map some := by
  simp only [lifecycle, announced]
  induction l.heard with
  | nil => rfl
  | cons event rest ih => cases tells : event.sessionRuns? <;> simp [tells, ih]

end Ledger

/-! ### What has been called and told -/

def Happening.called? : Happening κ → Option (κ × Payload)
  | .called callback payload => some (callback, payload)
  | _ => none

def Happening.told? : Happening κ → Option Bool
  | .told running => some running
  | _ => none

def called (history : List (Happening κ)) : List (κ × Payload) := history.filterMap Happening.called?

def told (history : List (Happening κ)) : List Bool := history.filterMap Happening.told?

theorem called_append (history more : List (Happening κ)) :
    called (history ++ more) = called history ++ called more := by
  simp [called]

theorem told_append (history more : List (Happening κ)) :
    told (history ++ more) = told history ++ told more := by
  simp [told]

/-! ### What waits -/

def BridgeTask.delivery? : BridgeTask κ → Option (κ × Payload)
  | .tell _ => none
  | .deliver relay payload => some (relay.callback, payload)

def BridgeTask.telling? : BridgeTask κ → Option Bool
  | .tell running => some running
  | .deliver _ _ => none

def deliveries (items : List (Item (BridgeTask κ))) : List (κ × Payload) :=
  items.filterMap fun item => BridgeTask.delivery? item.task

def tellings (items : List (Item (BridgeTask κ))) : List Bool :=
  items.filterMap fun item => BridgeTask.telling? item.task

theorem deliveries_append (left right : List (Item (BridgeTask κ))) :
    deliveries (left ++ right) = deliveries left ++ deliveries right := by
  simp [deliveries]

theorem tellings_append (left right : List (Item (BridgeTask κ))) :
    tellings (left ++ right) = tellings left ++ tellings right := by
  simp [tellings]

/-! ### Deliveries that find the session as their own event says -/

/-- A relay delivers one of the events, and the flag is what that event says, if it says anything. -/
def FindsOwn (heard : List EngineEvent) (flag : Bool) (relay : Relay κ) (payload : Payload) : Prop :=
  ∃ event ∈ heard, relay.name = event.channel.name ∧ payload = event.payload ∧
    ∀ running, event.sessionRuns? = some running → flag = running

/-- Each delivery in a queue is preceded by the telling of its own event, with no other in between, as
far as its event says anything of the session. -/
def Faithful (heard : List EngineEvent) : Bool → List (Item (BridgeTask κ)) → Prop
  | _, [] => True
  | _, ⟨_, .tell running⟩ :: rest => Faithful heard running rest
  | flag, ⟨_, .deliver relay payload⟩ :: rest => FindsOwn heard flag relay payload ∧ Faithful heard flag rest

section Faithful
variable {heard more : List EngineEvent}

theorem FindsOwn.grows {flag : Bool} {relay : Relay κ} {payload : Payload} (grows : heard ⊆ more)
    (finds : FindsOwn heard flag relay payload) : FindsOwn more flag relay payload := by
  obtain ⟨event, member, rest⟩ := finds
  exact ⟨event, grows member, rest⟩

theorem Faithful.grows {flag : Bool} {items : List (Item (BridgeTask κ))} (grows : heard ⊆ more)
    (faithful : Faithful heard flag items) : Faithful more flag items := by
  induction items generalizing flag with
  | nil => trivial
  | cons item rest ih =>
      obtain ⟨origin, task⟩ := item
      cases task with
      | tell running => exact ih faithful
      | deliver relay payload => exact ⟨faithful.1.grows grows, ih faithful.2⟩

/-- A queue that is faithful stays so when what comes after it is, whatever flag that finds. -/
theorem Faithful.append {flag : Bool} {left right : List (Item (BridgeTask κ))}
    (first : Faithful heard flag left) (second : ∀ flag, Faithful heard flag right) :
    Faithful heard flag (left ++ right) := by
  induction left generalizing flag with
  | nil => exact second flag
  | cons item rest ih =>
      obtain ⟨origin, task⟩ := item
      cases task with
      | tell running => exact ih first
      | deliver relay payload => exact ⟨first.1, ih first.2⟩

end Faithful

theorem channel_name_injective (left right : Channel) (same : left.name = right.name) : left = right := by
  revert same
  cases left <;> cases right <;> decide

/-- What a delivery finds that goes by the name of a kind of lifecycle event. -/
theorem FindsOwn.flag {heard : List EngineEvent} {flag : Bool} {relay : Relay κ} {payload : Payload}
    (finds : FindsOwn heard flag relay payload) :
    (relay.name = Channel.started.name → flag = true) ∧
    (relay.name = Channel.stopped.name → flag = false) ∧
    (relay.name = Channel.canceled.name → flag = false) := by
  obtain ⟨event, member, name, payload, tells⟩ := finds
  refine ⟨fun same => ?_, fun same => ?_, fun same => ?_⟩ <;>
    have kind := channel_name_injective _ _ (name.symm.trans same) <;>
    cases event <;> cases kind <;>
    exact tells _ rfl

end SpokenIntent.BridgeScript
