import SpokenIntent.Proofs.Json.Layout

/-!
Reading what has been laid out over several lines: lists, dictionaries and records are read as what they were,
each where its parts are.
-/

namespace SpokenIntent.Json

theorem blanks_space : Blanks [' '] := fun _ => rfl

theorem blanks_newLine (level : Nat) : Blanks (newLine level) := by
  intro rest
  rw [newLine, List.cons_append, skipBlank]
  induction 2 * level with
  | zero => rfl
  | succ n ih => simpa [List.replicate_succ, skipBlank] using ih

/-- The layout of what stands at `level`. -/
def laidOut (level : Nat) : Layout where
  value := writeLaidOut (level + 1)
  indent := newLine (level + 1)
  gap := [' ']
  close := newLine level
  indent_blank := blanks_newLine (level + 1)
  gap_blank := blanks_space
  close_blank := blanks_newLine level

theorem laidOutItems_eq (level : Nat) (xs : List Json) : laidOutItems level xs = (laidOut level).items xs := by
  induction xs with
  | nil => rfl
  | cons x xs ih =>
      rw [laidOutItems, ih]
      rfl

theorem laidOutMembers_eq (level : Nat) (ms : List (String × Json)) :
    laidOutMembers level ms = (laidOut level).members ms := by
  induction ms with
  | nil => rfl
  | cons m ms ih =>
      rw [laidOutMembers, ih]
      simp [Layout.members, Layout.member, laidOut]

theorem writeLaidOut_array (level : Nat) (xs : List Json) :
    writeLaidOut level (.array xs) = '[' :: (laidOut level).list xs := by
  cases xs with
  | nil => rfl
  | cons x xs =>
      rw [writeLaidOut, laidOutItems_eq]
      rfl

theorem writeLaidOut_object (level : Nat) (ms : List (String × Json)) :
    writeLaidOut level (.object ms) = '{' :: (laidOut level).object ms := by
  cases ms with
  | nil => rfl
  | cons m ms =>
      rw [writeLaidOut, laidOutMembers_eq]
      simp [Layout.object, Layout.member, laidOut]

theorem reads_list {α : Type} {item : Reader α} (toJson : α → Json) (level : Nat) (xs : List α)
    (each : ∀ x ∈ xs, Reads item (writeLaidOut (level + 1) (toJson x)) x) :
    Reads (readListOf item) (writeLaidOut level (.array (xs.map toJson))) xs where
  opens := ⟨'[', _, writeLaidOut_array level _, by decide, fun _ => rfl⟩
  reads before rest blanks := by
    rw [readListOf, expect, blanks, writeLaidOut_array]
    exact readList_written toJson (laidOut level) xs each rest

theorem reads_dict {α : Type} {value : Reader α} (toJson : α → Json) (level : Nat) {d : Dict α}
    (sorted : Dict.Sorted d) (each : ∀ e ∈ d, Reads value (writeLaidOut (level + 1) (toJson e.2)) e.2) :
    Reads (readDict value) (writeLaidOut level (.object (d.map fun (k, v) => (k, toJson v)))) d where
  opens := ⟨'{', _, writeLaidOut_object level _, by decide, fun _ => rfl⟩
  reads before rest blanks := by
    have takes : Takes (takeEntry value) (laidOut level) [] _ d := dict_takes [] d sorted each
    rw [readDict, expect, blanks, writeLaidOut_object]
    exact readObject_written takes rest

/-- A record written as an object. -/
theorem Shape.reads_object {σ : Type} {shape : Shape σ} {level : Nat} {s u : σ} {ms : List (String × Json)}
    (takes : Takes shape.member (laidOut level) s ms u) :
    Reads (shape.read s) (writeLaidOut level (.object ms)) u := by
  rw [writeLaidOut_object]
  exact Shape.reads_record takes

end SpokenIntent.Json
