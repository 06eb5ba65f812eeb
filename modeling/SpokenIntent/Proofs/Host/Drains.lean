import Mathlib.Data.Nat.Find
import Mathlib.Logic.Function.Iterate
import Mathlib.Tactic.IntervalCases
import SpokenIntent.Proofs.Host.Chronicle

/-!
The three drains go along one and the same chronicle. Where the items of a host post no end of others, it comes to
rest after a number of turns; the unconditional drains go there, and one with a condition to the first place on the
way at which the condition holds.
-/

namespace SpokenIntent.Chronicle

variable {σ τ : Type} (act : Scope → τ → Work σ τ Unit)

/-- The chronicle of a host that is drained as it is found. -/
def found (h : Host σ τ) : Chronicle σ τ := ⟨h, [], []⟩

/-- The chronicle after `k` more turns, as far as items wait. -/
def reached (k : Nat) (c : Chronicle σ τ) : Chronicle σ τ := (step act)^[k] c

@[simp] theorem reached_zero (c : Chronicle σ τ) : c.reached act 0 = c := rfl

theorem reached_succ (k : Nat) (c : Chronicle σ τ) : c.reached act (k + 1) = (c.step act).reached act k := rfl

theorem reached_step (k : Nat) (c : Chronicle σ τ) : c.reached act (k + 1) = (c.reached act k).step act :=
  Function.iterate_succ_apply' (step act) k c

theorem reached_reached (k more : Nat) (c : Chronicle σ τ) :
    (c.reached act k).reached act more = c.reached act (more + k) :=
  (Function.iterate_add_apply (step act) more k c).symm

theorem reached_idle {n : Nat} {c : Chronicle σ τ} (empty : (c.reached act n).host.queue.toList = []) (more : Nat) :
    c.reached act (more + n) = c.reached act n := by
  rw [← reached_reached]
  exact Function.iterate_fixed (step_idle act _ (Host.step?_eq_none.mpr empty)) more

/-! ### Turn by turn -/

theorem step_turns (c : Chronicle σ τ) : c.turns <+: (c.step act).turns := by
  cases front : c.host.queue.pop? with
  | none => simp [step, front]
  | some pair => simp [step, front]

theorem reached_turns (c : Chronicle σ τ) (k more : Nat) :
    (c.reached act k).turns <+: (c.reached act (k + more)).turns := by
  induction more with
  | zero => exact List.prefix_rfl
  | succ more ih =>
      rw [← Nat.add_assoc, reached_step]
      exact ih.trans (step_turns act _)

theorem reached_queue {first : List (Item τ)} {c : Chronicle σ τ}
    (queued : c.turns.map Turn.item ++ c.host.queue.toList = first ++ c.posted) (k : Nat) :
    (c.reached act k).turns.map Turn.item ++ (c.reached act k).host.queue.toList =
      first ++ (c.reached act k).posted := by
  induction k with
  | zero => exact queued
  | succ k ih =>
      rw [reached_step]
      exact step_queue act _ ih

theorem step?_of_waiting {c : Chronicle σ τ} (waiting : c.host.queue.toList ≠ []) :
    c.host.step? act = some (c.step act).host := by
  rw [step_host]
  cases taken : c.host.step? act with
  | none => exact absurd (Host.step?_eq_none.mp taken) waiting
  | some next => rfl

theorem found_queue (h : Host σ τ) (k : Nat) :
    ((found h).reached act k).turns.map Turn.item ++ ((found h).reached act k).host.queue.toList =
      h.queue.toList ++ ((found h).reached act k).posted :=
  reached_queue act (by simp [found]) k

/-- An item waits at each of the next `n` turns. -/
def Busy (n : Nat) (c : Chronicle σ τ) : Prop := ∀ k < n, (c.reached act k).host.queue.toList ≠ []

section Busy
variable {act} {c : Chronicle σ τ} {done : σ → Bool} {k : Nat}

theorem reached_count (busy : c.Busy act k) : (c.reached act k).turns.length = c.turns.length + k := by
  induction k with
  | zero => rfl
  | succ k ih =>
      have before := ih fun j early => busy j (Nat.lt_succ_of_lt early)
      have taken := step?_of_waiting act (busy k (Nat.lt_succ_self k))
      rw [reached_step, (step_turns_length act _ _ taken).2, before, Nat.add_assoc]

/-- A drain with a condition gets as far as the condition does not hold, and has the rest of its limit left. -/
theorem follow_advance (unmet : ∀ j < k, done (c.reached act j).host.world = false) (rest : Nat) :
    c.follow act done (k + rest) = (c.reached act k).follow act done rest := by
  induction k generalizing c with
  | zero => rw [Nat.zero_add, reached_zero]
  | succ k ih =>
      have first : done c.host.world = false := unmet 0 (Nat.succ_pos k)
      have later := ih fun j early => unmet (j + 1) (Nat.succ_lt_succ early)
      rw [Nat.add_right_comm, follow, first, reached_succ]
      exact later

theorem runUntilFrom_advance (busy : c.Busy act k) (unmet : ∀ j < k, done (c.reached act j).host.world = false)
    (rest checks : Nat) :
    Host.runUntilFrom act done (k + rest) checks c.host =
      Host.runUntilFrom act done rest (checks + k) (c.reached act k).host := by
  induction k generalizing c checks with
  | zero => rw [Nat.zero_add, reached_zero, Nat.add_zero]
  | succ k ih =>
      have first : done c.host.world = false := unmet 0 (Nat.succ_pos k)
      have taken : c.host.step? act = some (c.step act).host := step?_of_waiting act (busy 0 (Nat.succ_pos k))
      have later := ih (fun j early => busy (j + 1) (Nat.succ_lt_succ early))
        (fun j early => unmet (j + 1) (Nat.succ_lt_succ early)) (checks + 1)
      rw [Nat.add_right_comm, Host.runUntilFrom, first]
      simp only [taken, Bool.false_eq_true, ↓reduceIte]
      rw [later, reached_succ, Nat.add_assoc checks, Nat.add_comm 1 k]

end Busy

/-! ### Hosts that come to rest -/

/-- After `n` turns, and not before, nothing waits any more. -/
structure Rests (n : Nat) (c : Chronicle σ τ) : Prop where
  busy : c.Busy act n
  empty : (c.reached act n).host.queue.toList = []

section Rests
variable {act} {c : Chronicle σ τ} {done : σ → Bool} {n k limit : Nat}

/-- There cannot be more turns than items, so a host whose items post no end of others rests. -/
theorem rests_of_bounded {h : Host σ τ} {bound : Nat}
    (bounded : ∀ k, ((found h).reached act k).posted.length ≤ bound) : ∃ n, (found h).Rests act n := by
  classical
  have emptied : ∃ n, ((found h).reached act n).host.queue.toList = [] := by
    by_contra never
    rw [not_exists] at never
    have items := bounded (h.queue.toList.length + bound)
    have queue := congrArg List.length (found_queue act h (h.queue.toList.length + bound))
    rw [List.length_append, List.length_append, List.length_map, reached_count fun j _ => never j] at queue
    have empty : ((found h).reached act (h.queue.toList.length + bound)).host.queue.toList.length = 0 := by omega
    exact never _ (List.length_eq_zero_iff.mp empty)
  refine ⟨Nat.find emptied, ?_, Nat.find_spec emptied⟩
  intro k early
  exact Nat.find_min emptied early

theorem Rests.later (rests : c.Rests act n) (before : k ≤ n) : (c.reached act k).Rests act (n - k) where
  busy j early := by
    rw [reached_reached]
    exact rests.busy (j + k) (by omega)
  empty := by
    rw [reached_reached, Nat.sub_add_cancel before]
    exact rests.empty

theorem Rests.idle (rests : c.Rests act n) : (c.reached act n).host.step? act = none :=
  Host.step?_eq_none.mpr rests.empty

/-- Without a condition all turns are taken. -/
theorem Rests.drained (rests : c.Rests act n) (enough : n < limit) :
    c.follow act (fun _ => false) limit = c.reached act n := by
  rcases Nat.exists_eq_add_of_lt enough with ⟨rest, rfl⟩
  rw [Nat.add_assoc, follow_advance fun _ _ => rfl, follow_idle act _ _ _ rests.idle]

/-- The turn before which a drain with a condition ends. -/
theorem exists_stop (done : σ → Bool) (n : Nat) (c : Chronicle σ τ) :
    ∃ k ≤ n, (∀ j < k, done (c.reached act j).host.world = false) ∧
      (k = n ∨ done (c.reached act k).host.world = true) := by
  have last : ∃ k, k = n ∨ done (c.reached act k).host.world = true := ⟨n, .inl rfl⟩
  classical
  refine ⟨Nat.find last, Nat.find_min' last (.inl rfl), ?_, Nat.find_spec last⟩
  intro j early
  rw [Bool.eq_false_iff]
  exact fun holds => Nat.find_min last early (.inr holds)

theorem Rests.stopped (rests : c.Rests act n) (before : k ≤ n)
    (unmet : ∀ j < k, done (c.reached act j).host.world = false)
    (stops : k = n ∨ done (c.reached act k).host.world = true) (enough : n < limit) :
    c.follow act done limit = c.reached act k ∧
      c.host.runUntil act done limit =
        (⟨done (c.reached act k).host.world, if done (c.reached act k).host.world then k + 1 else n + 2⟩,
          (c.reached act k).host) := by
  obtain ⟨rest, rfl⟩ : ∃ rest, limit = k + (rest + 1) := ⟨limit - k - 1, by omega⟩
  rw [follow_advance unmet, Host.runUntil,
    runUntilFrom_advance (fun j early => rests.busy j (by omega)) unmet, follow, Host.runUntilFrom, Nat.zero_add]
  by_cases holds : done (c.reached act k).host.world = true
  · simp [holds]
  · obtain rfl : k = n := stops.resolve_right holds
    rw [step_idle act _ rests.idle, follow_idle act _ _ _ rests.idle]
    simp [holds, rests.idle]

end Rests

/-! ### All drains -/

/-- Whatever host is drained, as long as its items post no end of others, there are `n` turns in all:
the items that wait have theirs first, in order, then those that are posted meanwhile;
the unconditional drains take all turns;
one with a condition takes the fewest after which the condition holds, or else all, and leaves the other items
where they are;
it reports whether the condition holds where it ends, and has asked before each turn and at the end, once more if in
vain;
what it leaves an unconditional drain takes up, with the same outcome as if it had been there from the start;
and a condition that never holds makes no difference. -/
theorem drains_agree (act : Scope → τ → Work σ τ Unit) (h : Host σ τ)
    (finite : ∃ bound, ∀ k, ((found h).reached act k).posted.length ≤ bound) :
    let c := found h
    ∃ n, (c.reached act n).host.queue.toList = [] ∧
      (∀ k ≤ n,
        (c.reached act k).turns = (c.reached act n).turns.take k ∧ (c.reached act k).turns.length = k ∧
        (c.reached act k).turns.map Turn.item ++ (c.reached act k).host.queue.toList =
          h.queue.toList ++ (c.reached act k).posted) ∧
      (∀ limit > n,
        h.runPending act limit = (n, (c.reached act n).host) ∧ c.drain act (.runPending limit) = c.reached act n ∧
        h.runFor act limit = (n, (c.reached act n).host) ∧ c.drain act (.runFor limit) = c.reached act n) ∧
      ∀ done : σ → Bool,
        (∃ k ≤ n, (∀ j < k, done (c.reached act j).host.world = false) ∧
          (k = n ∨ done (c.reached act k).host.world = true) ∧
          ∀ limit > n,
            h.runUntil act done limit =
              (⟨done (c.reached act k).host.world, if done (c.reached act k).host.world then k + 1 else n + 2⟩,
                (c.reached act k).host) ∧
            c.drain act (.runUntil done limit) = c.reached act k ∧
            (c.reached act k).drain act (.runPending limit) = c.drain act (.runPending limit)) ∧
        ((∀ k ≤ n, done (c.reached act k).host.world = false) → ∀ limit > n,
          h.runUntil act done limit = (⟨false, n + 2⟩, (h.runPending act limit).2) ∧
          c.drain act (.runUntil done limit) = c.drain act (.runPending limit)) := by
  intro c
  rcases finite with ⟨bound, bounded⟩
  rcases rests_of_bounded bounded with ⟨n, rests⟩
  have counted {k : Nat} (before : k ≤ n) : (c.reached act k).turns.length = k := by
    rw [reached_count fun j early => rests.busy j (by omega)]
    exact Nat.zero_add k
  have pending {limit : Nat} (enough : n < limit) : h.runPending act limit = (n, (c.reached act n).host) := by
    rcases follow_runPending act limit c with ⟨host, count⟩
    rw [rests.drained enough] at host count
    rw [counted le_rfl] at count
    exact Prod.ext (count.trans (Nat.zero_add _)).symm host.symm
  refine ⟨n, rests.empty, ?_, ?_, ?_⟩
  · intro k before
    have taken := reached_turns act c k (n - k)
    rw [Nat.add_sub_of_le before] at taken
    refine ⟨?_, counted before, found_queue act h k⟩
    rw [List.prefix_iff_eq_take.mp taken, counted before]
  · intro limit enough
    refine ⟨pending enough, rests.drained enough, ?_, rests.drained enough⟩
    rw [Host.runFor, runFor_eq_runPending, pending enough, Nat.zero_add]
  · intro done
    constructor
    · rcases exists_stop done n c with ⟨k, before, unmet, stops⟩
      refine ⟨k, before, unmet, stops, ?_⟩
      intro limit enough
      rcases rests.stopped before unmet stops enough with ⟨stopped, watched⟩
      refine ⟨watched, stopped, ?_⟩
      have fewer : n - k < limit := Nat.lt_of_le_of_lt (Nat.sub_le n k) enough
      have finished := (rests.later before).drained fewer
      rw [reached_reached, Nat.sub_add_cancel before] at finished
      exact finished.trans (rests.drained enough).symm
    · intro never limit enough
      have unmet : ∀ j < n, done (c.reached act j).host.world = false := fun j early => never j (Nat.le_of_lt early)
      rcases rests.stopped le_rfl unmet (.inl rfl) enough with ⟨stopped, watched⟩
      rw [never n le_rfl] at watched
      rw [pending enough]
      exact ⟨watched, stopped.trans (rests.drained enough).symm⟩

/-- An item that counts down, one that panics at once, and a condition that holds before the last of four turns. -/
theorem countdown_drains_agree :
    let h : Host Nat Nat := ((Host.start 0).perform (Work.post [⟨"a", 2⟩, ⟨"b", 0⟩])).2
    (∃ bound, ∀ k, ((found h).reached countdown k).posted.length ≤ bound) ∧
    ∀ limit > 4,
      (h.runPending countdown limit).1 = 4 ∧ (h.runFor countdown limit).1 = 4 ∧
      (h.runUntil countdown (3 ≤ ·) limit).1 = ⟨true, 4⟩ ∧
      (h.runUntil countdown (3 ≤ ·) limit).2.queue.toList.map Item.task = [0] ∧
      (h.runUntil countdown (9 ≤ ·) limit).1 = ⟨false, 6⟩ := by
  intro h
  have still (more : Nat) : (found h).reached countdown (more + 4) = (found h).reached countdown 4 :=
    reached_idle countdown rfl more
  have bounded : ∀ k, ((found h).reached countdown k).posted.length ≤ 2 := by
    intro k
    rcases Nat.lt_or_ge k 4 with early | late
    · interval_cases k <;> decide
    · rw [← Nat.sub_add_cancel late, still]
      decide
  refine ⟨⟨2, bounded⟩, ?_⟩
  rcases drains_agree countdown h ⟨2, bounded⟩ with ⟨n, empty, turns, pending, conditional⟩
  obtain rfl : n = 4 := by
    rcases Nat.lt_or_ge n 4 with early | late
    · interval_cases n <;> cases empty
    · have counted := (turns n le_rfl).2.1
      rw [← Nat.sub_add_cancel late, still] at counted
      exact (Nat.sub_add_cancel late).symm.trans counted.symm
  intro limit enough
  rcases conditional (3 ≤ ·) with ⟨⟨k, before, unmet, stops, watched⟩, -⟩
  obtain rfl : k = 3 := by
    interval_cases k
    · exact absurd stops (by decide)
    · exact absurd stops (by decide)
    · exact absurd stops (by decide)
    · rfl
    · exact absurd (unmet 3 (by decide)) (by decide)
  have never := (conditional (9 ≤ ·)).2 (fun k before => by interval_cases k <;> rfl) limit enough
  rcases pending limit enough with ⟨all, -, timed, -⟩
  rw [all, timed, (watched limit enough).1, never.1]
  exact ⟨rfl, rfl, rfl, rfl, rfl⟩

end SpokenIntent.Chronicle
