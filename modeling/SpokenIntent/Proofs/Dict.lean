import Mathlib.Data.List.Sort
import SpokenIntent.Dict

/-!
Dictionaries and the lists that they are made of: what is in one has been put in, and the entries of a
dictionary make that dictionary again.
-/

namespace SpokenIntent.Dict

variable {α : Type}

theorem mem_insert {key : String} {value : α} {d : Dict α} {e : String × α}
    (member : e ∈ insert key value d) : e = (key, value) ∨ e ∈ d := by
  induction d with
  | nil => exact .inl (by simpa [insert] using member)
  | cons head rest ih =>
      obtain ⟨k, v⟩ := head
      simp only [insert] at member
      split at member
      · exact List.mem_cons.mp member
      · split at member
        · exact (List.mem_cons.mp member).imp_right fun later => List.mem_cons_of_mem _ later
        · obtain rfl | later := List.mem_cons.mp member
          · exact .inr List.mem_cons_self
          · exact (ih later).imp_right fun later => List.mem_cons_of_mem _ later

theorem mem_foldl_insert {entries : List (String × α)} {d : Dict α} {e : String × α}
    (member : e ∈ entries.foldl (fun d e => d.insert e.1 e.2) d) : e ∈ d ∨ e ∈ entries := by
  induction entries generalizing d with
  | nil => exact .inl member
  | cons entry rest ih =>
      obtain earlier | later := ih member
      · exact (mem_insert earlier).symm.imp_right fun same => List.mem_cons.mpr (.inl same)
      · exact .inr (List.mem_cons_of_mem _ later)

theorem mem_ofList {entries : List (String × α)} {e : String × α} (member : e ∈ ofList entries) :
    e ∈ entries :=
  (mem_foldl_insert member).resolve_left List.not_mem_nil

/-- An entry that comes after all others is put last. -/
theorem insert_above {key : String} {value : α} {d : Dict α} (above : ∀ e ∈ d, e.1 < key) :
    insert key value d = d ++ [(key, value)] := by
  induction d with
  | nil => rfl
  | cons head rest ih =>
      obtain ⟨k, v⟩ := head
      have below : k < key := above (k, v) List.mem_cons_self
      have apart : key ≠ k := fun same => String.lt_irrefl k (same ▸ below)
      simp only [insert, String.lt_asymm below, apart, ↓reduceIte, List.cons_append]
      rw [ih fun e member => above e (List.mem_cons_of_mem _ member)]

theorem foldl_insert_sorted (d rest : Dict α) (sorted : Sorted (d ++ rest)) :
    rest.foldl (fun d e => d.insert e.1 e.2) d = d ++ rest := by
  induction rest generalizing d with
  | nil => simp
  | cons entry rest ih =>
      have above : ∀ e ∈ d, e.1 < entry.1 := fun e member =>
        (List.pairwise_append.mp sorted).2.2 e member entry List.mem_cons_self
      rw [List.foldl_cons, insert_above above, ih _ (by simpa using sorted)]
      simp

theorem ofList_sorted {d : Dict α} (sorted : Sorted d) : ofList d = d :=
  foldl_insert_sorted [] d sorted

theorem get?_of_mem {d : Dict α} (sorted : Sorted d) {key : String} {value : α} (member : (key, value) ∈ d) :
    get? key d = some value := by
  induction d with
  | nil => cases member
  | cons head rest ih =>
      obtain ⟨k, v⟩ := head
      obtain ⟨first, sortedRest⟩ := List.pairwise_cons.mp sorted
      obtain same | later := List.mem_cons.mp member
      · cases same
        simp [get?]
      · have apart : k ≠ key := fun same => String.lt_irrefl k (same ▸ first _ later)
        simp [get?, apart, ih sortedRest later]

theorem mem_of_get? {entries : List (String × α)} {key : String} {value : α}
    (found : get? key entries = some value) : (key, value) ∈ entries := by
  induction entries with
  | nil => simp [get?] at found
  | cons head rest ih =>
      obtain ⟨k, v⟩ := head
      simp only [get?] at found
      split at found
      · next same => simp_all
      · exact List.mem_cons_of_mem _ (ih found)

theorem get?_eq_some_iff_mem {d : Dict α} (sorted : Sorted d) {key : String} {value : α} :
    get? key d = some value ↔ (key, value) ∈ d :=
  ⟨mem_of_get?, get?_of_mem sorted⟩

/-- Dictionaries with the same entries are the same. -/
theorem eq_of_mem_iff {d d' : Dict α} (sorted : Sorted d) (sorted' : Sorted d')
    (same : ∀ e, e ∈ d ↔ e ∈ d') : d = d' := by
  have irreflexive : Std.Irrefl fun a b : String × α => a.1 < b.1 := ⟨fun e => String.lt_irrefl e.1⟩
  have antisymmetric : Std.Antisymm fun a b : String × α => a.1 < b.1 :=
    ⟨fun _ _ below above => absurd above (String.lt_asymm below)⟩
  exact List.Pairwise.eq_of_mem_iff sorted sorted' same

theorem get?_append (key : String) (entries more : List (String × α)) :
    get? key (entries ++ more) = (get? key entries).or (get? key more) := by
  induction entries with
  | nil => rfl
  | cons entry rest ih => by_cases same : entry.1 = key <;> simp [get?, same, ih]

theorem isSome_get? {key : String} {entries : List (String × α)} :
    (get? key entries).isSome ↔ key ∈ entries.map Prod.fst := by
  induction entries with
  | nil => simp [get?]
  | cons entry rest ih =>
      rw [get?, List.map_cons, List.mem_cons, ← ih]
      by_cases same : entry.1 = key
      · simp [same]
      · simp [same, Ne.symm same]

theorem get?_foldl_insert (key : String) (entries : List (String × α)) (d : Dict α) :
    get? key (entries.foldl (fun (d : Dict α) e => d.insert e.1 e.2) d) =
      (get? key entries.reverse).or (get? key d) := by
  induction entries generalizing d with
  | nil => rfl
  | cons entry rest ih =>
      rw [List.foldl_cons, ih, get?_insert, List.reverse_cons, get?_append]
      cases get? key rest.reverse with
      | some value => rfl
      | none => by_cases same : entry.1 = key <;> simp [get?, same]

/-- Of entries with the same key the last one counts. -/
theorem get?_ofList (key : String) (entries : List (String × α)) :
    get? key (ofList entries) = get? key entries.reverse := by
  simp [ofList, get?_foldl_insert, get?]

/-- Where no two entries have the key, it does not matter which of them would count. -/
theorem get?_reverse_of_once {key : String} {entries : List (String × α)}
    (once : (entries.map Prod.fst).count key ≤ 1) : get? key entries.reverse = get? key entries := by
  induction entries with
  | nil => rfl
  | cons entry rest ih =>
      rw [List.map_cons, List.count_cons] at once
      rw [List.reverse_cons, get?_append]
      by_cases same : entry.1 = key
      · have absent : key ∉ rest.reverse.map Prod.fst := by
          rw [List.map_reverse, List.mem_reverse, ← List.count_eq_zero]
          simp only [same, BEq.rfl, ↓reduceIte] at once
          omega
        have none : get? key rest.reverse = none := by
          rw [← Option.not_isSome_iff_eq_none, isSome_get?]
          exact absent
        simp [none, get?, same]
      · rw [ih (Nat.le_trans (Nat.le_add_right _ _) once)]
        simp [get?, same]

/-- The value under a key is the one of the first entry with that key. -/
theorem get?_eq_some_iff {key : String} {value : α} {entries : List (String × α)} :
    get? key entries = some value ↔
      ∃ before after, entries = before ++ (key, value) :: after ∧ key ∉ before.map Prod.fst := by
  constructor
  · intro found
    induction entries with
    | nil => cases found
    | cons entry rest ih =>
        rw [get?] at found
        split at found
        · next same =>
          cases found
          exact ⟨[], rest, by rw [← same]; rfl, List.not_mem_nil⟩
        · next apart =>
          rcases ih found with ⟨before, after, rfl, absent⟩
          refine ⟨entry :: before, after, rfl, ?_⟩
          rw [List.map_cons, List.mem_cons, not_or]
          exact ⟨Ne.symm apart, absent⟩
  · rintro ⟨before, after, rfl, absent⟩
    have none : get? key before = none := by
      rw [← Option.not_isSome_iff_eq_none, isSome_get?]
      exact absent
    simp [get?_append, none, get?]

/-- What is in a dictionary is what no later entry has replaced. -/
theorem mem_ofList_iff {key : String} {value : α} {entries : List (String × α)} :
    (key, value) ∈ ofList entries ↔
      ∃ before after, entries = before ++ (key, value) :: after ∧ key ∉ after.map Prod.fst := by
  rw [← get?_eq_some_iff_mem (sorted_ofList entries), get?_ofList, get?_eq_some_iff]
  constructor
  · rintro ⟨before, after, reversed, absent⟩
    refine ⟨after.reverse, before.reverse, ?_, by simpa using absent⟩
    rw [← List.reverse_reverse entries, reversed]
    simp
  · rintro ⟨before, after, rfl, absent⟩
    exact ⟨after.reverse, before.reverse, by simp, by simpa using absent⟩

/-- Where entries are turned into others, the last of those that come under a key counts. -/
theorem get?_ofList_filterMap {β : Type} {turn : String × α → Option (String × β)} {entries : List (String × α)}
    {key : String} {value : β} :
    get? key (ofList (entries.filterMap turn)) = some value ↔
      ∃ before entry after, entries = before ++ entry :: after ∧ turn entry = some (key, value) ∧
        ∀ later ∈ after, ∀ other, turn later ≠ some (key, other) := by
  have absent (after : List (String × α)) :
      key ∉ (after.filterMap turn).map Prod.fst ↔ ∀ later ∈ after, ∀ other, turn later ≠ some (key, other) := by
    constructor
    · intro none later member other turned
      exact none (List.mem_map.mpr ⟨_, List.mem_filterMap.mpr ⟨later, member, turned⟩, rfl⟩)
    · intro none listed
      rcases List.mem_map.mp listed with ⟨⟨_, other⟩, kept, rfl⟩
      rcases List.mem_filterMap.mp kept with ⟨later, member, turned⟩
      exact none later member other turned
  rw [get?_eq_some_iff_mem (sorted_ofList _), mem_ofList_iff]
  constructor
  · rintro ⟨front, back, whole, last⟩
    rcases List.filterMap_eq_append_iff.mp whole with ⟨before, rest, rfl, -, turned⟩
    rcases List.filterMap_eq_cons_iff.mp turned with ⟨skipped, entry, after, rfl, -, here, rfl⟩
    exact ⟨before ++ skipped, entry, after, (List.append_assoc ..).symm, here, (absent after).mp last⟩
  · rintro ⟨before, entry, after, rfl, here, last⟩
    refine ⟨before.filterMap turn, after.filterMap turn, ?_, (absent after).mpr last⟩
    rw [List.filterMap_append, List.filterMap_cons_some here]

/-! ### Entries of which no two have the same key -/

section Once
variable {entries entries' : List (String × α)}

theorem Sorted.nodup {d : Dict α} (sorted : Sorted d) : d.Nodup := by
  apply List.Pairwise.imp _ sorted
  rintro e e' below rfl
  exact String.lt_irrefl e.1 below

theorem mem_ofList_of_nodup (once : (entries.map Prod.fst).Nodup) {e : String × α} :
    e ∈ ofList entries ↔ e ∈ entries := by
  constructor
  · exact mem_ofList
  · intro member
    rcases List.append_of_mem member with ⟨before, after, rfl⟩
    rw [List.map_append, List.map_cons] at once
    have absent : e.1 ∉ after.map Prod.fst := (List.nodup_cons.mp (List.nodup_append.mp once).2.1).1
    exact mem_ofList_iff.mpr ⟨before, after, rfl, absent⟩

/-- A dictionary puts entries in order, and leaves out none. -/
theorem ofList_perm (once : (entries.map Prod.fst).Nodup) : (ofList entries).Perm entries :=
  (List.perm_ext_iff_of_nodup (sorted_ofList entries).nodup (List.Nodup.of_map _ once)).mpr
    fun _ => mem_ofList_of_nodup once

/-- The order in which entries come does not matter. -/
theorem ofList_eq_of_perm (once : (entries.map Prod.fst).Nodup) (order : entries'.Perm entries) :
    ofList entries' = ofList entries := by
  have once' : (entries'.map Prod.fst).Nodup := (order.map Prod.fst).nodup_iff.mpr once
  apply eq_of_mem_iff (sorted_ofList entries') (sorted_ofList entries)
  intro e
  rw [mem_ofList_of_nodup once', mem_ofList_of_nodup once]
  exact order.mem_iff

end Once

end SpokenIntent.Dict
