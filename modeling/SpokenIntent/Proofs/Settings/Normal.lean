import Mathlib.Data.List.MinMax
import SpokenIntent.Proofs.Dict
import SpokenIntent.Proofs.Vocabulary.Utterance
import SpokenIntent.Settings.Basic

/-!
Normal settings, normalized again. Everything but the commands stays as it is. The commands do so exactly
if no utterance among them ends in a period; otherwise the longest that does is lost.
-/

namespace SpokenIntent.Settings

open Text

/-! ### Lists that keep what is new -/

section Keeping
variable {α : Type} (tidy : α → α) (admits : List α → α → Bool) (room : Nat)

/-- What both lists of the settings do: an entry is tidied, and kept if the ones before admit it and there
is room. -/
def keep (kept : List α) : List α → List α
  | [] => kept
  | a :: rest =>
    if admits kept (tidy a) then
      let kept := kept ++ [tidy a]
      if room ≤ kept.length then kept else keep kept rest
    else keep kept rest

/-- A list of tidy entries, each admitted by the ones before. -/
inductive Kept : List α → Prop where
  | nil : Kept []
  | snoc {as : List α} {a : α} (kept : Kept as) (tidied : tidy a = a) (admitted : admits as a = true) :
      Kept (as ++ [a])

variable {tidy admits room}

theorem Kept.split {as : List α} (kept : Kept tidy admits as) {before after : List α} {a : α}
    (whole : as = before ++ a :: after) : tidy a = a ∧ admits before a = true := by
  induction kept generalizing after with
  | nil => simp at whole
  | @snoc as b kept tidied admitted ih =>
      obtain rfl | ⟨front, last, rfl⟩ := List.eq_nil_or_concat after
      · obtain ⟨rfl, same⟩ := List.append_inj' whole rfl
        obtain rfl := List.singleton_inj.mp same
        exact ⟨tidied, admitted⟩
      · have whole : as ++ [b] = (before ++ a :: front) ++ [last] := by simpa using whole
        exact ih (List.append_inj' whole rfl).1

theorem keep_kept (again : ∀ a, tidy (tidy a) = tidy a) {kept : List α} (holds : Kept tidy admits kept)
    (fits : kept.length < room) (as : List α) :
    Kept tidy admits (keep tidy admits room kept as) ∧ (keep tidy admits room kept as).length ≤ room := by
  induction as generalizing kept with
  | nil => exact ⟨holds, fits.le⟩
  | cons a rest ih =>
      simp only [keep]
      split
      · next admitted =>
        have longer : Kept tidy admits (kept ++ [tidy a]) := .snoc holds (again a) admitted
        split
        · exact ⟨longer, by simpa using Nat.succ_le_of_lt fits⟩
        · next more => exact ih longer (by omega)
      · exact ih holds fits

/-- A list of this kind is kept as it is. -/
theorem keep_eq (kept : List α) {rest : List α} (holds : Kept tidy admits (kept ++ rest))
    (fits : (kept ++ rest).length ≤ room) : keep tidy admits room kept rest = kept ++ rest := by
  induction rest generalizing kept with
  | nil => simp [keep]
  | cons a rest ih =>
      obtain ⟨tidied, admitted⟩ := holds.split rfl
      have onward : kept ++ a :: rest = (kept ++ [a]) ++ rest := by simp
      simp only [keep, tidied, admitted, ↓reduceIte]
      split
      · next full =>
        -- there is no room for more, and so there is no more
        have none : rest = [] := by
          simp only [List.length_append, List.length_cons, List.length_nil] at full fits
          exact List.length_eq_zero_iff.mp (by omega)
        rw [none]
      · rw [onward] at holds fits ⊢
        exact ih _ holds fits

theorem keep_again (again : ∀ a, tidy (tidy a) = tidy a) (some : 0 < room) (as : List α) :
    keep tidy admits room [] (keep tidy admits room [] as) = keep tidy admits room [] as := by
  obtain ⟨kept, fits⟩ := keep_kept again .nil some as
  exact keep_eq [] kept fits

end Keeping

/-! ### The lists of the settings -/

def tidyIntent (i : IntentSetting) : IntentSetting := ⟨trim i.phrase, trim i.intentId⟩

def admitsIntent (kept : List IntentSetting) (i : IntentSetting) : Bool :=
  !(i.phrase.isEmpty || i.intentId.isEmpty || kept.contains i)

def admitsPhrase (kept : List String) (phrase : String) : Bool :=
  !(phrase.isEmpty || kept.any (samePhrase · phrase))

theorem keepIntents_eq (kept intents : List IntentSetting) :
    keepIntents kept intents = keep tidyIntent admitsIntent maxIntents kept intents := by
  induction intents generalizing kept with
  | nil => rfl
  | cons intent rest ih =>
      simp only [keepIntents, keep, admitsIntent, tidyIntent, Bool.not_eq_true', ← ih]
      cases (trim intent.phrase).isEmpty || (trim intent.intentId).isEmpty ||
        kept.contains ⟨trim intent.phrase, trim intent.intentId⟩ <;> simp

theorem keepPhrases_eq (kept phrases : List String) :
    keepPhrases kept phrases = keep trim admitsPhrase maxPhrases kept phrases := by
  induction phrases generalizing kept with
  | nil => rfl
  | cons phrase rest ih =>
      simp only [keepPhrases, keep, admitsPhrase, Bool.not_eq_true', ← ih]
      cases (trim phrase).isEmpty || kept.any (samePhrase · (trim phrase)) <;> simp

theorem normalizeIntents_again (intents : List IntentSetting) :
    normalizeIntents (normalizeIntents intents) = normalizeIntents intents := by
  simp only [normalizeIntents, keepIntents_eq]
  exact keep_again (fun i => by simp [tidyIntent]) (by decide) intents

theorem normalizePhrases_again (phrases : List String) :
    normalizePhrases (normalizePhrases phrases) = normalizePhrases phrases := by
  simp only [normalizePhrases, keepPhrases_eq]
  exact keep_again trim_trim (by decide) phrases

/-! ### Single texts -/

theorem normalizeOptional_again (value : Option String) :
    normalizeOptional (normalizeOptional value) = normalizeOptional value := by
  cases value with
  | none => rfl
  | some v =>
      by_cases empty : (trim v).isEmpty = true
      · simp [normalizeOptional, Option.filter_some, empty]
      · simp [normalizeOptional, Option.filter_some, empty]

theorem normalizeLogFilter_again (filter : String) :
    normalizeLogFilter (normalizeLogFilter filter) = normalizeLogFilter filter := by
  have usual : trim defaultLogFilter = defaultLogFilter ∧ defaultLogFilter.isEmpty = false := by
    decide +kernel
  simp only [normalizeLogFilter]
  by_cases empty : (trim filter).isEmpty = true
  · simp [empty, usual]
  · simp [empty]

/-! ### Commands -/

theorem normalizeCommands_sorted (commands : Dict String) : Dict.Sorted (normalizeCommands commands) :=
  Dict.sorted_ofList _

/-- Every command comes from one that it is the normal form of. -/
theorem mem_normalizeCommands {commands : Dict String} {e : String × String}
    (member : e ∈ normalizeCommands commands) :
    ∃ origin ∈ commands, (e.1 = normalizeUtterance origin.1 ∧ e.2 = trim origin.2) ∧
      e.1.isEmpty = false ∧ e.2.isEmpty = false := by
  obtain ⟨origin, known, normal⟩ := List.mem_filterMap.mp (Dict.mem_ofList member)
  simp only [normalizeCommand?] at normal
  split at normal
  · cases normal
  · next filled =>
    rw [Bool.or_eq_true, not_or, Bool.not_eq_true, Bool.not_eq_true] at filled
    rw [← Option.some.inj normal]
    exact ⟨origin, known, ⟨rfl, rfl⟩, filled⟩

/-- An entry that normalizing keeps, unless another one with the same utterance takes its place. -/
def Usable (entry : String × String) : Prop :=
  normalizeUtterance entry.1 ≠ "" ∧ isBlankText entry.2 = false

theorem normalizeCommand?_eq_some {entry e : String × String} :
    normalizeCommand? entry = some e ↔ Usable entry ∧ (normalizeUtterance entry.1, trim entry.2) = e := by
  simp only [normalizeCommand?, Option.ite_none_left_eq_some, Option.some.injEq, Bool.or_eq_true, not_or,
    Bool.not_eq_true, trim_isEmpty, Usable, ne_eq, ← String.isEmpty_iff]

/-- Some entry is kept under the utterance. -/
def Written (commands : Dict String) (utterance : String) : Prop :=
  ∃ entry ∈ commands, Usable entry ∧ normalizeUtterance entry.1 = utterance

theorem isSome_normalizeCommands {commands : Dict String} {utterance : String} :
    (Dict.get? utterance (normalizeCommands commands)).isSome ↔ Written commands utterance := by
  rw [normalizeCommands, Dict.get?_ofList, Dict.isSome_get?, List.map_reverse, List.mem_reverse, List.mem_map]
  constructor
  · rintro ⟨e, kept, rfl⟩
    rcases List.mem_filterMap.mp kept with ⟨entry, member, normal⟩
    rcases normalizeCommand?_eq_some.mp normal with ⟨usable, rfl⟩
    exact ⟨entry, member, usable, rfl⟩
  · rintro ⟨entry, member, usable, rfl⟩
    exact ⟨_, List.mem_filterMap.mpr ⟨entry, member, normalizeCommand?_eq_some.mpr ⟨usable, rfl⟩⟩, rfl⟩

theorem normalizeCommand?_normal {commands : Dict String} {e : String × String}
    (member : e ∈ normalizeCommands commands) (whole : ¬ EndsInPeriod e.1) : normalizeCommand? e = some e := by
  obtain ⟨origin, -, ⟨utterance, command⟩, filled⟩ := mem_normalizeCommands member
  have fixed : normalizeUtterance e.1 = e.1 := by
    rw [utterance] at whole ⊢
    exact normalizeUtterance_fixed whole
  have trimmed : trim e.2 = e.2 := by rw [command, trim_trim]
  simp [normalizeCommand?, fixed, trimmed, filled]

theorem normalizeCommands_again {commands : Dict String}
    (whole : ∀ e ∈ normalizeCommands commands, ¬ EndsInPeriod e.1) :
    normalizeCommands (normalizeCommands commands) = normalizeCommands commands := by
  have same : (normalizeCommands commands).filterMap normalizeCommand? = normalizeCommands commands :=
    (List.filterMap_congr fun e member => normalizeCommand?_normal member (whole e member)).trans
      List.filterMap_some
  conv_lhs => rw [normalizeCommands, same]
  exact Dict.ofList_sorted (normalizeCommands_sorted commands)

/-- The longest utterance that ends in a period is not the normal form of any other. -/
theorem longest_lost {commands : Dict String} {e : String × String}
    (member : e ∈ normalizeCommands commands) (ends : EndsInPeriod e.1) :
    ∃ longest ∈ normalizeCommands commands, EndsInPeriod longest.1 ∧
      ∀ e' ∈ normalizeCommands (normalizeCommands commands), e'.1 ≠ longest.1 := by
  let ending := (normalizeCommands commands).filter fun e => EndsInPeriod e.1
  have known {e} : e ∈ ending ↔ e ∈ normalizeCommands commands ∧ EndsInPeriod e.1 := by simp [ending]
  obtain ⟨longest, most⟩ : ∃ longest, longest ∈ ending.argmax fun e => e.1.toList.length := by
    apply Option.ne_none_iff_exists'.mp
    intro none
    exact List.ne_nil_of_mem (known.mpr ⟨member, ends⟩) (List.argmax_eq_none.mp none)
  obtain ⟨here, period⟩ := known.mp (List.argmax_mem most)
  refine ⟨longest, here, period, ?_⟩
  intro e' later same
  -- were it there the second time, it would come from an entry of the first, `before`
  obtain ⟨before, earlier, ⟨utterance, -⟩, -⟩ := mem_normalizeCommands later
  obtain ⟨origin, -, ⟨normal, -⟩, -⟩ := mem_normalizeCommands earlier
  rw [same, normal] at utterance
  by_cases endsToo : EndsInPeriod before.1
  · -- what it comes from would be longer
    have shorter := normalizeUtterance_shorter (normal ▸ endsToo)
    rw [← utterance, ← normal] at shorter
    exact absurd (List.le_of_mem_argmax (known.mpr ⟨earlier, endsToo⟩) most) (by omega)
  · -- what it comes from would be itself
    rw [normalizeUtterance_fixed (normal ▸ endsToo), ← normal] at utterance
    exact endsToo (utterance ▸ period)

theorem normalizeCommands_fixed_iff (commands : Dict String) :
    normalizeCommands (normalizeCommands commands) = normalizeCommands commands ↔
      ∀ e ∈ normalizeCommands commands, ¬ EndsInPeriod e.1 := by
  constructor
  · intro same e member ends
    obtain ⟨longest, here, -, lost⟩ := longest_lost member ends
    exact lost longest (by rwa [same]) rfl
  · exact normalizeCommands_again

/-! ### The settings -/

/-- Whether normalizing settings again leaves them as they are is up to their commands alone. -/
theorem normalize_again (s : Settings) :
    s.normalize.normalize = { s.normalize with commands := normalizeCommands s.normalize.commands } := by
  simp only [normalize, normalizeOptional_again, normalizeIntents_again, normalizePhrases_again,
    normalizeLogFilter_again]

end SpokenIntent.Settings
