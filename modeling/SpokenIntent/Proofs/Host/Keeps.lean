import SpokenIntent.Proofs.Host.Chronicle

/-!
What is true of a world and stays true. Whatever is put together of pieces that keep a property keeps it, whether or not
it panics; and so does a host on which nothing else runs.
-/

namespace SpokenIntent

variable {σ τ α β : Type}

namespace Work

/-- Work after which the property still holds, no matter how the work has ended. -/
def Keeps (P : σ → Prop) (work : Work σ τ α) : Prop :=
  ∀ e, P e.world →
    match work e with
    | .ok _ left => P left.world
    | .error _ left => P left.world

variable {P : σ → Prop}

theorem keeps_pure (a : α) : Keeps P (pure a : Work σ τ α) := fun _ holds => holds

theorem keeps_read : Keeps P (read : Work σ τ σ) := fun _ holds => holds

theorem keeps_post (items : List (Item τ)) : Keeps P (post items : Work σ τ Unit) := fun _ holds => holds

theorem keeps_report (entry : LogEntry) : Keeps P (report entry : Work σ τ Unit) := fun _ holds => holds

theorem keeps_panic (p : Panic) : Keeps P (panic p : Work σ τ α) := fun _ holds => holds

theorem keeps_update {f : σ → σ} (keeps : ∀ world, P world → P (f world)) : Keeps P (update f : Work σ τ Unit) :=
  fun e holds => keeps e.world holds

theorem keeps_bind {work : Work σ τ α} {next : α → Work σ τ β} (first : Keeps P work) (second : ∀ a, Keeps P (next a)) :
    Keeps P (work >>= next) := by
  intro e holds
  have left := first e holds
  rw [bind_apply]
  cases ran : work e with
  | error p e' =>
      rw [ran] at left
      exact left
  | ok a e' =>
      rw [ran] at left
      exact second a e' left

theorem keeps_attempt {work : Work σ τ α} (keeps : Keeps P work) : Keeps P work.attempt := by
  intro e holds
  have left := keeps e holds
  rw [attempt_apply]
  cases ran : work e <;> (rw [ran] at left; exact left)

theorem keeps_within {ρ υ : Type} {part : σ → ρ} {setPart : ρ → σ → σ} {tag : υ → τ} {work : Work ρ υ α}
    (keeps : ∀ world, P world → P (setPart (work.leave (part world)).world world)) :
    Keeps P (within part setPart tag work) := by
  intro e holds
  have left := keeps e.world holds
  rw [leave] at left
  simp only [within]
  cases ran : work ⟨part e.world, [], []⟩ <;> (rw [ran] at left; exact left)

theorem Keeps.leave {work : Work σ τ α} (keeps : Keeps P work) {world : σ} (holds : P world) :
    P (work.leave world).world := by
  have left := keeps ⟨world, [], []⟩ holds
  rw [Work.leave]
  cases ran : work ⟨world, [], []⟩ <;> (rw [ran] at left; exact left)

end Work

namespace Host

variable {P : σ → Prop} {act : Scope → τ → Work σ τ Unit}

theorem perform_keeps {work : Work σ τ α} (keeps : Work.Keeps P work) (h : Host σ τ) (holds : P h.world) :
    P (h.perform work).2.world := by
  rw [perform_eq]
  exact keeps.leave holds

theorem execute_keeps (items : ∀ scope task, Work.Keeps P (act scope task)) (h : Host σ τ) (item : Item τ)
    (holds : P h.world) : P (execute act h item).world := by
  rw [execute_eq]
  exact (items _ _).leave holds

theorem drain_keeps (items : ∀ scope task, Work.Keeps P (act scope task)) (d : Drain σ) (h : Host σ τ)
    (holds : P h.world) : P (h.drain act d).world := by
  have step (c : Chronicle σ τ) (holds : P c.host.world) : P (c.step act).host.world := by
    cases front : c.host.queue.pop? with
    | none =>
        simp only [Chronicle.step, front]
        exact holds
    | some pair =>
        simp only [Chronicle.step, front]
        exact execute_keeps items _ _ holds
  have drained := Chronicle.drain_invariant act step d ⟨h, [], []⟩ holds
  rw [Chronicle.drain_host] at drained
  exact drained

/-- What all work on a host keeps, the host keeps, from outside and by its items. -/
theorem after_keeps (items : ∀ scope task, Work.Keeps P (act scope task)) (moves : List (Move σ τ))
    (works : ∀ work, .perform work ∈ moves → Work.Keeps P work) (h : Host σ τ) (holds : P h.world) :
    P (h.after act moves).world := by
  induction moves generalizing h with
  | nil => exact holds
  | cons m rest ih =>
      have later (work : Work σ τ Unit) (member : .perform work ∈ rest) : Work.Keeps P work :=
        works work (List.mem_cons_of_mem m member)
      refine ih later (h.move act m) ?_
      cases m with
      | perform work => exact perform_keeps (works work List.mem_cons_self) h holds
      | drain d => exact drain_keeps items d h holds
      | close => exact holds

end Host

end SpokenIntent
