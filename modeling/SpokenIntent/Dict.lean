/-!
Dictionaries with text keys, kept as association lists in strictly ascending code point order. That
order is the one in which entries are shown and written.
-/

namespace SpokenIntent

abbrev Dict (α : Type) := List (String × α)

namespace Dict

variable {α β : Type}

/-- Strictly ascending keys: no key twice. -/
def Sorted (d : Dict α) : Prop :=
  d.Pairwise fun a b => a.1 < b.1

/-- The value under `key` in any association list: the first one. -/
def get? (key : String) : List (String × α) → Option α
  | [] => none
  | (k, v) :: rest => if k = key then some v else get? key rest

def insert (key : String) (value : α) : Dict α → Dict α
  | [] => [(key, value)]
  | (k, v) :: rest =>
    if key < k then (key, value) :: (k, v) :: rest
    else if key = k then (key, value) :: rest
    else (k, v) :: insert key value rest

/-- The dictionary of a list of entries; of two with the same key the later one counts. -/
def ofList (entries : List (String × α)) : Dict α :=
  entries.foldl (fun d e => d.insert e.1 e.2) []

theorem mem_insert_key {key : String} {value : α} {d : Dict α} {e : String × α}
    (h : e ∈ insert key value d) : e.1 = key ∨ e ∈ d := by
  induction d with
  | nil => simp [insert] at h; simp [h]
  | cons head rest ih =>
    obtain ⟨k, v⟩ := head
    simp only [insert] at h
    split at h
    · simp only [List.mem_cons] at h
      rcases h with rfl | h | h <;> simp_all
    · split at h
      · simp only [List.mem_cons] at h
        rcases h with rfl | h <;> simp_all
      · simp only [List.mem_cons] at h
        rcases h with rfl | h
        · simp
        · rcases ih h with h | h <;> simp [h]

theorem sorted_insert {key : String} {value : α} {d : Dict α} (h : Sorted d) :
    Sorted (insert key value d) := by
  induction d with
  | nil => simp [insert, Sorted]
  | cons head rest ih =>
    obtain ⟨k, v⟩ := head
    simp only [Sorted, List.pairwise_cons] at h ih
    simp only [insert]
    split
    · next lt =>
      simp only [Sorted, List.pairwise_cons, List.mem_cons, forall_eq_or_imp]
      exact ⟨⟨lt, fun e he => String.lt_trans lt (h.1 e he)⟩, h.1, h.2⟩
    · next nlt =>
      split
      · next eq =>
        subst eq
        simp only [Sorted, List.pairwise_cons]
        exact ⟨h.1, h.2⟩
      · next ne =>
        simp only [Sorted, List.pairwise_cons]
        refine ⟨fun e he => ?_, ih h.2⟩
        rcases mem_insert_key he with he | he
        · rw [he]
          have le : k ≤ key := String.not_lt.mp nlt
          rcases Decidable.em (k < key) with lt | nlt'
          · exact lt
          · exact absurd (String.le_antisymm le (String.not_lt.mp nlt')).symm ne
        · exact h.1 e he

theorem sorted_ofList (entries : List (String × α)) : Sorted (ofList entries) := by
  unfold ofList
  suffices ∀ d : Dict α, Sorted d →
      Sorted (entries.foldl (fun d e => insert e.1 e.2 d) d) from this [] List.Pairwise.nil
  induction entries with
  | nil => exact fun _ h => h
  | cons e rest ih => exact fun d h => ih _ (sorted_insert h)

theorem get?_insert (key other : String) (value : α) (d : Dict α) :
    get? other (insert key value d) = if key = other then some value else get? other d := by
  induction d with
  | nil => simp [insert, get?]
  | cons head rest ih =>
    obtain ⟨k, v⟩ := head
    simp only [insert]
    split
    · simp [get?]
    · split
      · next eq => subst eq; by_cases h : key = other <;> simp [get?, h]
      · next ne =>
        simp only [get?, ih]
        by_cases h : k = other
        · subst h; simp [ne]
        · simp [h]

end Dict

end SpokenIntent
