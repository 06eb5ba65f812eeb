import Mathlib.Logic.Hydra
import SpokenIntent.Proofs.Host.Drains
import SpokenIntent.Relay.Slot

/-!
What the items of a host lead to. An item may post others while it runs, and these may post others again: each of
the items that wait is the root of a tree. If every item has a rank above those of the items it posts, the trees are
finite, and a drain runs as many items as the trees have nodes.

The queue may grow at every turn, so its length is no measure. What falls is the collection of the ranks that wait:
the rank of the item that runs is replaced by any number of smaller ones.
-/

namespace SpokenIntent

/-- An item with all that comes of it: the items it posts, each with all that comes of it. -/
inductive Growth (τ : Type) where
  | node (item : Item τ) (offspring : List (Growth τ))

namespace Growth

variable {τ : Type}

def item : Growth τ → Item τ
  | .node item _ => item

mutual

/-- The items of a tree. -/
def items : Growth τ → List (Item τ)
  | .node item offspring => item :: all offspring

/-- The items of a forest. -/
def all : List (Growth τ) → List (Item τ)
  | [] => []
  | tree :: rest => tree.items ++ all rest

end

theorem all_append (forest more : List (Growth τ)) : all (forest ++ more) = all forest ++ all more := by
  induction forest with
  | nil => rfl
  | cons tree rest ih => rw [List.cons_append, all, all, ih, List.append_assoc]

end Growth

namespace Chronicle

variable {σ τ : Type} (act : Scope → τ → Work σ τ Unit)

/-! ### The forest of a run -/

/-- The items that a host takes from an item when that one runs first. -/
def posts (h : Host σ τ) (item : Item τ) : List (Item τ) :=
  h.accepts ((act (h.scopeOf item) item.task).leave h.world)

/-- The forest that comes of the items that wait. The first of them runs, and what it posts then is what stands below
it; of this and of the other items comes the rest of the forest. -/
inductive Grows : Chronicle σ τ → List (Growth τ) → Prop where
  | idle {c : Chronicle σ τ} (empty : c.host.queue.toList = []) : Grows c []
  | turn {c : Chronicle σ τ} {item : Item τ} {offspring rest : List (Growth τ)}
      (first : c.host.queue.toList = item :: rest.map Growth.item)
      (posted : offspring.map Growth.item = posts act c.host item)
      (later : Grows (c.step act) (rest ++ offspring)) : Grows c (.node item offspring :: rest)

theorem step_first {c : Chronicle σ τ} {item : Item τ} {queue : List (Item τ)}
    (first : c.host.queue.toList = item :: queue) :
    (c.step act).host.queue.toList = queue ++ posts act c.host item ∧
    (c.step act).posted = c.posted ++ posts act c.host item ∧
    (c.step act).turns.map Turn.item = c.turns.map Turn.item ++ [item] ∧
    (c.step act).host.alive = c.host.alive := by
  cases front : c.host.queue.pop? with
  | none =>
      rw [Fifo.pop?_eq_none.mp front] at first
      cases first
  | some pair =>
      have popped := Fifo.toList_of_pop? front
      rw [first, List.cons.injEq] at popped
      rcases popped with ⟨rfl, rfl⟩
      refine ⟨?_, ?_, ?_, ?_⟩ <;> simp only [step, front, Host.execute_eq]
      · exact Fifo.toList_append _ _
      · rfl
      · exact List.map_append

section Grows
variable {act} {c : Chronicle σ τ} {forest : List (Growth τ)}

theorem Grows.roots (grows : c.Grows act forest) : forest.map Growth.item = c.host.queue.toList := by
  cases grows with
  | idle empty => exact empty.symm
  | turn first posted later => exact first.symm

/-- There is one such forest at most. -/
theorem Grows.unique (grows : c.Grows act forest) {other : List (Growth τ)} (others : c.Grows act other) :
    forest = other := by
  induction grows generalizing other with
  | idle empty =>
      have roots := others.roots
      rw [empty, List.map_eq_nil_iff] at roots
      exact roots.symm
  | @turn c item offspring rest first posted later ih =>
      cases others with
      | idle empty =>
          rw [empty] at first
          cases first
      | @turn _ item' offspring' rest' first' posted' later' =>
          rw [first, List.cons.injEq] at first'
          rcases first' with ⟨rfl, same⟩
          have counted : rest.length = rest'.length := by simpa using congrArg List.length same
          rcases List.append_inj (ih later') counted with ⟨rfl, rfl⟩
          rfl

/-- There is a turn for each item of the forest, and then none waits. -/
theorem Grows.reached (grows : c.Grows act forest) :
    c.Rests act (Growth.all forest).length ∧
    ((c.reached act (Growth.all forest).length).turns.map Turn.item).Perm (c.turns.map Turn.item ++ Growth.all forest) := by
  induction grows with
  | idle empty =>
      refine ⟨⟨?_, empty⟩, by simp [Growth.all]⟩
      intro k early
      cases early
  | @turn c item offspring rest first posted later ih =>
      rcases ih with ⟨⟨busy, empty⟩, order⟩
      -- the offspring come last in the queue, and right below their item in the tree
      have moved : (item :: Growth.all (rest ++ offspring)).Perm (Growth.all (.node item offspring :: rest)) := by
        rw [Growth.all_append, Growth.all, Growth.items, List.cons_append]
        exact .cons item List.perm_append_comm
      have counted : (Growth.all (.node item offspring :: rest)).length = (Growth.all (rest ++ offspring)).length + 1 :=
        moved.length_eq.symm
      rw [counted, reached_succ]
      refine ⟨⟨?_, empty⟩, ?_⟩
      · intro k early
        cases k with
        | zero => simp [first]
        | succ k => exact busy k (Nat.lt_of_succ_lt_succ early)
      · rw [(step_first act first).2.2.1, List.append_assoc] at order
        exact order.trans (.append_left _ moved)

theorem Grows.runPending {h : Host σ τ} (grows : (found h).Grows act forest) {limit : Nat}
    (enough : (Growth.all forest).length < limit) :
    (h.runPending act limit).1 = (Growth.all forest).length ∧ (h.runPending act limit).2.queue.toList = [] ∧
    (((found h).drain act (.runPending limit)).turns.map Turn.item).Perm (Growth.all forest) := by
  rcases grows.reached with ⟨rests, order⟩
  rcases follow_runPending act limit (found h) with ⟨host, count⟩
  rw [rests.drained enough] at host count
  rw [reached_count rests.busy] at count
  refine ⟨(Nat.add_left_cancel count).symm, ?_, ?_⟩
  · rw [show h.runPending act limit = (found h).host.runPending act limit from rfl, ← host]
    exact rests.empty
  · rw [drain, rests.drained enough]
    exact order

/-- Panics make no difference to what is posted. -/
theorem Grows.calmed (grows : c.Grows act forest) {d : Chronicle σ τ} (same : d.quiet = c.quiet) :
    d.Grows (calmly act) forest := by
  induction grows generalizing d with
  | @idle c empty =>
      have queue : d.host.queue = c.host.queue := congrArg (fun e => e.host.queue) same
      exact .idle (queue ▸ empty)
  | @turn c item offspring rest first posted later ih =>
      have queue : d.host.queue = c.host.queue := congrArg (fun e => e.host.queue) same
      have taken : posts (calmly act) d.host item = posts act c.host item := by
        have world : d.host.world = c.host.world := congrArg (fun e => e.host.world) same
        have seq : d.host.seq = c.host.seq := congrArg (fun e => e.host.seq) same
        have alive : d.host.alive = c.host.alive := congrArg (fun e => e.host.alive) same
        simp only [posts, calmly, Work.calmed_leave, Host.accepts, Host.scopeOf, world, seq, alive]
      exact .turn (queue ▸ first) (taken ▸ posted) (ih (step_calmly act d c same))

/-- Where what an item posts goes by the item alone, so does all that comes of it. -/
theorem Grows.alone (grows : c.Grows act forest) (living : c.host.alive = true) {leads : Item τ → List (Item τ)}
    (alone : ∀ scope item world, ((act scope item.task).leave world).posted = leads item)
    {grown : Item τ → Growth τ} (unfolds : ∀ item, grown item = .node item ((leads item).map grown)) :
    forest = c.host.queue.toList.map grown := by
  induction grows with
  | idle empty => rw [empty, List.map_nil]
  | @turn c item offspring rest first posted later ih =>
      rcases step_first act first with ⟨queue, -, -, alive⟩
      have tail := ih (alive.trans living)
      have taken : posts act c.host item = leads item := by
        rw [posts, Host.accepts, if_pos living]
        exact alone _ _ _
      rw [queue, taken, List.map_append] at tail
      have counted : rest.length = ((rest.map Growth.item).map grown).length := by simp
      rcases List.append_inj tail counted with ⟨others, below⟩
      rw [first, List.map_cons, unfolds item, ← others, ← below]

end Grows

/-! ### Ranks -/

/-- The items that have joined the queue when `k` turns are over, in order. -/
def joined (h : Host σ τ) (k : Nat) : List (Item τ) := h.queue.toList ++ ((found h).reached act k).posted

/-- A rank for each item, by its place among all items in the order in which they join the queue. Turn `k` is that of
the item in place `k`, and the items that it posts rank below it. Ranks do not go by tasks, since the same task may be
posted again and do something else then. -/
def Descends (h : Host σ τ) (rank : Nat → Nat) : Prop :=
  ∀ k place, (joined act h k).length ≤ place → place < (joined act h (k + 1)).length → rank place < rank k

section Descends
variable {act} {h : Host σ τ} {k : Nat}

theorem busy_of_waiting {c : Chronicle σ τ} (waiting : (c.reached act k).host.queue.toList ≠ []) : c.Busy act k := by
  intro j early empty
  rw [← Nat.sub_add_cancel (Nat.le_of_lt early), reached_idle act empty] at waiting
  exact waiting empty

section Turn
variable {item : Item τ} {queue : List (Item τ)} (first : ((found h).reached act k).host.queue.toList = item :: queue)
include first

theorem joined_turn : ∃ before, before.length = k ∧ joined act h k = before ++ item :: queue := by
  have busy : (found h).Busy act k := busy_of_waiting (first ▸ List.cons_ne_nil item queue)
  refine ⟨((found h).reached act k).turns.map Turn.item, ?_, ?_⟩
  · rw [List.length_map, reached_count busy]
    exact Nat.zero_add k
  · rw [joined, ← found_queue, first]

theorem joined_succ : joined act h (k + 1) = joined act h k ++ posts act ((found h).reached act k).host item := by
  rw [joined, reached_step, (step_first act first).2.1, ← List.append_assoc, joined]

end Turn

theorem joined_idle (empty : ((found h).reached act k).host.queue.toList = []) :
    joined act h (k + 1) = joined act h k := by
  rw [joined, reached_step, step_idle act _ (Host.step?_eq_none.mpr empty), joined]

theorem joined_front (k more : Nat) : joined act h k <+: joined act h (k + more) := by
  induction more with
  | zero => exact List.prefix_rfl
  | succ more ih =>
      apply ih.trans
      rw [← Nat.add_assoc]
      cases first : ((found h).reached act (k + more)).host.queue.toList with
      | nil => rw [joined_idle first]
      | cons item queue =>
          rw [joined_succ first]
          exact List.prefix_append _ _

/-- The ranks of the items that wait after `k` turns. -/
def waitingRanks (act : Scope → τ → Work σ τ Unit) (h : Host σ τ) (rank : Nat → Nat) (k : Nat) : Multiset Nat :=
  (List.range' k ((joined act h k).length - k)).map rank

/-- A turn takes one rank away and puts smaller ones in its place. -/
theorem waitingRanks_cut {rank : Nat → Nat} (descends : Descends act h rank) {item : Item τ} {queue : List (Item τ)}
    (first : ((found h).reached act k).host.queue.toList = item :: queue) :
    Relation.CutExpand (· < ·) (waitingRanks act h rank (k + 1)) (waitingRanks act h rank k) := by
  let added := (posts act ((found h).reached act k).host item).length
  have before : (joined act h k).length = k + 1 + queue.length := by
    rcases joined_turn first with ⟨early, counted, whole⟩
    rw [whole, List.length_append, List.length_cons, counted]
    omega
  have after : (joined act h (k + 1)).length = (joined act h k).length + added := by
    rw [joined_succ first, List.length_append]
  have here : List.range' k ((joined act h k).length - k) = k :: List.range' (k + 1) queue.length := by
    rw [show (joined act h k).length - k = queue.length + 1 by omega, List.range'_succ]
  have there : List.range' (k + 1) ((joined act h (k + 1)).length - (k + 1)) =
      List.range' (k + 1) queue.length ++ List.range' (joined act h k).length added := by
    rw [show (joined act h (k + 1)).length - (k + 1) = queue.length + added by omega, before, List.range'_append_1]
  refine ⟨(List.range' (joined act h k).length added).map rank, rank k, ?_, ?_⟩
  · intro smaller member
    rcases List.mem_map.mp member with ⟨place, new, rfl⟩
    rw [List.mem_range'_1, ← after] at new
    exact descends k place new.1 new.2
  · rw [waitingRanks, waitingRanks, here, there, List.map_append, List.map_cons]
    exact Multiset.coe_eq_coe.mpr (List.perm_append_singleton _ _)

/-- With ranks that fall there is a forest. -/
theorem grows_of_descends {rank : Nat → Nat} (descends : Descends act h rank) :
    ∃ forest, (found h).Grows act forest := by
  suffices later : ∀ ranks k, waitingRanks act h rank k = ranks → ∃ forest, ((found h).reached act k).Grows act forest
    from later _ 0 rfl
  intro ranks
  induction ranks using (WellFounded.cutExpand Nat.lt_wfRel.wf).induction with
  | _ ranks ih =>
    rintro k rfl
    cases first : ((found h).reached act k).host.queue.toList with
    | nil => exact ⟨[], .idle first⟩
    | cons item queue =>
        rcases ih _ (waitingRanks_cut descends first) (k + 1) rfl with ⟨forest, grows⟩
        rw [reached_step] at grows
        have roots := grows.roots
        rw [(step_first act first).1, List.map_eq_append_iff] at roots
        rcases roots with ⟨rest, offspring, rfl, others, posted⟩
        exact ⟨.node item offspring :: rest, .turn (others ▸ first) posted grows⟩

/-- Ranks of tasks will do, where no task ever posts one that does not rank below it. -/
theorem descends_of_tasks {rank : τ → Nat} (falls : ∀ scope task world,
    ∀ item ∈ ((act scope task).leave world).posted, rank item.task < rank task) (h : Host σ τ) :
    ∃ places, Descends act h places := by
  let rankAt (place : Nat) : Nat := ((joined act h place)[place]?.map fun item => rank item.task).getD 0
  refine ⟨rankAt, ?_⟩
  intro k place old new
  cases first : ((found h).reached act k).host.queue.toList with
  | nil =>
      rw [joined_idle first] at new
      exact absurd old (Nat.not_le.mpr new)
  | cons item queue =>
      rcases joined_turn first with ⟨before, counted, whole⟩
      have here : (joined act h k)[k]? = some item := by
        rw [whole, List.getElem?_append_right (by omega), counted]
        simp
      obtain ⟨later, there, member⟩ : ∃ later, (joined act h (k + 1))[place]? = some later ∧
          later ∈ posts act ((found h).reached act k).host item := by
        rw [joined_succ first] at new ⊢
        rw [List.length_append] at new
        rw [List.getElem?_append_right old]
        exact ⟨_, List.getElem?_eq_getElem (by omega), List.getElem_mem _⟩
      have still : (joined act h place)[place]? = some later := by
        obtain ⟨more, rfl⟩ : ∃ more, place = k + 1 + more := by
          rw [whole, List.length_append, List.length_cons] at old
          exact Nat.exists_eq_add_of_le (by omega)
        have front : joined act h (k + 1) <+: joined act h (k + 1 + more) := joined_front (k + 1) more
        rcases front with ⟨rest, all⟩
        rw [← all, List.getElem?_append_left new]
        exact there
      have smaller : rank later.task < rank item.task := by
        apply falls _ _ _ _
        rw [posts, Host.accepts] at member
        split at member
        · exact member
        · cases member
      simpa [rankAt, here, still] using smaller

end Descends

/-! ### Drains -/

/-- A drain of a host whose items rank above those that they post comes to an end and leaves nothing behind. The
items that wait at first are the roots of one forest, in which every item stands above those that it posts, and
there is a turn for each item of this forest. Panics make no difference to that; and where what an item posts goes
by the item alone, so does its tree, whatever runs in between. -/
theorem runPending_terminates (act : Scope → τ → Work σ τ Unit) (h : Host σ τ)
    (ranked : ∃ rank, Descends act h rank) :
    ∃ forest, (found h).Grows act forest ∧ (∀ other, (found h).Grows act other → other = forest) ∧
      forest.map Growth.item = h.queue.toList ∧
      (∀ limit > (Growth.all forest).length,
        (h.runPending act limit).1 = (Growth.all forest).length ∧
        (h.runPending act limit).2.queue.toList = [] ∧
        (((found h).drain act (.runPending limit)).turns.map Turn.item).Perm (Growth.all forest) ∧
        (h.runPending (calmly act) limit).1 = (Growth.all forest).length ∧
        (h.runPending (calmly act) limit).2.queue.toList = []) ∧
      ∀ (leads : Item τ → List (Item τ)) (grown : Item τ → Growth τ), h.alive = true →
        (∀ scope item world, ((act scope item.task).leave world).posted = leads item) →
        (∀ item, grown item = .node item ((leads item).map grown)) → forest = h.queue.toList.map grown := by
  rcases ranked with ⟨rank, descends⟩
  rcases grows_of_descends descends with ⟨forest, grows⟩
  refine ⟨forest, grows, fun other others => others.unique grows, grows.roots, ?_, ?_⟩
  · intro limit enough
    rcases grows.runPending enough with ⟨count, empty, order⟩
    rcases (grows.calmed rfl).runPending enough with ⟨calmCount, calmEmpty, -⟩
    exact ⟨count, empty, order, calmCount, calmEmpty⟩
  · intro leads grown living alone unfolds
    exact grows.alone living alone unfolds

/-- An item that delivers through a relay. The builder posts a smaller item, and so does the callback, which then
panics. -/
def splitting (scope : Scope) : Nat → Work Nat Nat Unit
  | 0 => Work.panic (.text "over")
  | n + 1 =>
    Relay.deliver ⟨"split", n⟩
      (fun smaller () => do
        Work.post [⟨"callback", smaller⟩]
        Work.panic (.text "unwelcome"))
      (fun _ => do
        Work.post [⟨"builder", n⟩]
        pure (.ok ()))
      scope

def splitPosts : Nat → List (Item Nat)
  | 0 => []
  | n + 1 => [⟨"builder", n⟩, ⟨"callback", n⟩]

def splits : Nat → String → Growth Nat
  | 0, origin => .node ⟨origin, 0⟩ []
  | n + 1, origin => .node ⟨origin, n + 1⟩ [splits n "builder", splits n "callback"]

theorem splitting_posts (scope : Scope) (n world : Nat) : ((splitting scope n).leave world).posted = splitPosts n := by
  cases n <;> rfl

theorem splitting_terminates :
    let h : Host Nat Nat := ((Host.start 0).perform (Work.post [⟨"a", 2⟩, ⟨"b", 0⟩])).2
    (∃ rank, Descends splitting h rank) ∧
    ∀ limit > 8, (h.runPending splitting limit).1 = 8 ∧ (h.runPending splitting limit).2.queue.toList = [] := by
  intro h
  have falls (scope : Scope) (n world : Nat) :
      ∀ item ∈ ((splitting scope n).leave world).posted, id item.task < id n := by
    intro item member
    rw [splitting_posts] at member
    cases n with
    | zero => cases member
    | succ n =>
        simp only [splitPosts, List.mem_cons, List.not_mem_nil, or_false] at member
        rcases member with rfl | rfl <;> exact Nat.lt_succ_self n
  have ranked : ∃ rank, Descends splitting h rank := descends_of_tasks falls h
  rcases runPending_terminates splitting h ranked with ⟨forest, -, -, -, drained, grown⟩
  have trees : forest = [splits 2 "a", splits 0 "b"] := by
    apply grown (fun item => splitPosts item.task) (fun item => splits item.task item.origin) rfl
    · exact fun scope item world => splitting_posts scope item.task world
    · rintro ⟨origin, n⟩
      cases n <;> rfl
  have counted : (Growth.all forest).length = 8 := by
    rw [trees]
    rfl
  refine ⟨ranked, ?_⟩
  intro limit enough
  rw [← counted] at enough ⊢
  exact ⟨(drained limit enough).1, (drained limit enough).2.1⟩

end Chronicle

end SpokenIntent
