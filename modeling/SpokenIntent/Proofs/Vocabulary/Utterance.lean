import SpokenIntent.Proofs.Text.Words
import SpokenIntent.Vocabulary.Utterance

/-!
Normalized utterances. One has no blank at its ends and is in lower case, but it may end in a period: only
one run of periods is dropped, and what it uncovers may be a blank and another. Such an utterance, normalized
again, becomes shorter; any other stays as it is.

Normalizing goes word by word: it may be done before or after the words are parted by single spaces.
-/

namespace SpokenIntent

open Text

def EndsInPeriod (s : String) : Prop := s.toList.getLast? = some '.'

instance (s : String) : Decidable (EndsInPeriod s) := inferInstanceAs (Decidable (_ = _))

/-- An utterance without the blanks around it and the periods at its end. -/
def stripped (cs : List Char) : List Char :=
  dropTail isBlank (dropTail (· == '.') (dropEnds isBlank cs))

theorem stripped_front (cs : List Char) : stripped cs <+: dropEnds isBlank cs :=
  (dropTail_front _ _).trans (dropTail_front _ _)

theorem stripped_bare (cs : List Char) : Bare isBlank (stripped cs) where
  head c first := (dropEnds_bare isBlank cs).head c (head_of_front (stripped_front cs) c first)
  last := dropTail_last _ _

theorem normalizeUtterance_toList (text : String) :
    (normalizeUtterance text).toList = lowerAfter [] (stripped text.toList) :=
  String.toList_ofList

theorem normalizeUtterance_bare (text : String) : Bare isBlank (normalizeUtterance text).toList := by
  rw [normalizeUtterance_toList]
  exact lowerAfter_bare (stripped_bare _) []

/-- What normalizing makes of an utterance that is normalized. -/
theorem normalizeUtterance_again (text : String) :
    (normalizeUtterance (normalizeUtterance text)).toList =
      dropTail isBlank (dropTail (· == '.') (normalizeUtterance text).toList) := by
  have settled : ∀ c ∈ (normalizeUtterance text).toList, Settled c := by
    rw [normalizeUtterance_toList]
    exact lowerAfter_settled [] _
  have kept : ∀ c ∈ stripped (normalizeUtterance text).toList, Settled c := fun c member =>
    settled c ((dropEnds_eq_self (normalizeUtterance_bare text) ▸ stripped_front _).subset member)
  rw [normalizeUtterance_toList, lowerAfter_eq_self kept, stripped,
    dropEnds_eq_self (normalizeUtterance_bare text)]

theorem normalizeUtterance_fixed {text : String} (whole : ¬ EndsInPeriod (normalizeUtterance text)) :
    normalizeUtterance (normalizeUtterance text) = normalizeUtterance text := by
  rw [← String.toList_inj, normalizeUtterance_again, dropTail_eq_self (p := (· == '.')),
    dropTail_eq_self (normalizeUtterance_bare text).last]
  intro c last
  rw [beq_eq_false_iff_ne]
  rintro rfl
  exact whole last

theorem normalizeUtterance_shorter {text : String} (ends : EndsInPeriod (normalizeUtterance text)) :
    (normalizeUtterance (normalizeUtterance text)).toList.length < (normalizeUtterance text).toList.length := by
  rw [normalizeUtterance_again]
  exact (dropTail_front _ _).length_le.trans_lt (dropTail_length ends (by decide))

/-! ### Word by word -/

/-- Words without the periods at the end of the last one, which is dropped if it has nothing else. -/
def withoutPeriods : List (List Char) → List (List Char)
  | [] => []
  | [w] => splitBlank (dropTail (· == '.') w)
  | w :: v :: rest => w :: withoutPeriods (v :: rest)

theorem withoutPeriods_append (ws : List (List Char)) {vs : List (List Char)} (some : vs ≠ []) :
    withoutPeriods (ws ++ vs) = ws ++ withoutPeriods vs := by
  induction ws with
  | nil => rfl
  | cons w rest ih =>
      cases tail : rest ++ vs with
      | nil => exact absurd (List.append_eq_nil_iff.mp tail).2 some
      | cons v more =>
          rw [List.cons_append, tail, withoutPeriods, ← tail, ih]
          rfl

theorem splitBlank_dropPeriods {cs : List Char} (last : ∀ c ∈ cs.getLast?, isBlank c = false) :
    splitBlank (dropTail (· == '.') cs) = withoutPeriods (splitBlank cs) := by
  induction cs using blank_induction with
  | word w whole =>
      by_cases empty : w = []
      · simp [empty, withoutPeriods, dropTail]
      · rw [splitBlank_whole whole empty, withoutPeriods]
  | parted w b rest whole blank ih =>
      have space : (b == '.') = false := by
        rw [beq_eq_false_iff_ne]
        rintro rfl
        exact absurd blank (by decide)
      cases rest with
      | nil =>
          rw [last b (by simp)] at blank
          cases blank
      | cons d more =>
          have still : ∀ c ∈ (d :: more).getLast?, isBlank c = false := by
            intro c ends
            apply last c
            rw [List.getLast?_append_of_ne_nil _ (by simp), List.getLast?_cons_of_ne_nil (by simp)]
            exact ends
          have some : splitBlank (d :: more) ≠ [] := by
            intro none
            obtain ⟨c, ends⟩ := Option.isSome_iff_exists.mp (List.getLast?_isSome.mpr (List.cons_ne_nil d more))
            have solid := still c ends
            rw [blank_of_splitBlank none c (List.mem_of_mem_getLast? ends)] at solid
            cases solid
          rw [dropTail_break (p := (· == '.')) space, splitBlank_break blank, splitBlank_break blank, ih still,
            withoutPeriods_append _ some]

theorem splitBlank_stripped (cs : List Char) : splitBlank (stripped cs) = withoutPeriods (splitBlank cs) := by
  rw [stripped, splitBlank_dropTail, splitBlank_dropPeriods (dropEnds_bare isBlank cs).last, splitBlank_dropEnds]

/-- What is stripped of a text that is spaced is spaced. -/
theorem stripped_spaced {cs : List Char} (spaced : Spaced cs) : Spaced (stripped cs) where
  bare := stripped_bare cs
  single := by
    have front := stripped_front cs
    rw [dropEnds_eq_self spaced.bare] at front
    exact spaced.single.prefix front

theorem normalizeUtterance_spaced (text : String) :
    normalizeUtterance (spaced text) = spaced (normalizeUtterance text) := by
  have words := splitBlank_words text.toList
  have text_spaced := intercalate_spaced words
  have stripped_words : stripped (spaced text).toList = [' '].intercalate (splitBlank (stripped text.toList)) := by
    rw [spaced_toList, ← intercalate_splitBlank (stripped_spaced text_spaced), splitBlank_stripped,
      splitBlank_stripped, splitBlank_intercalate words]
  rw [← String.toList_inj, normalizeUtterance_toList, stripped_words, lowerAfter_intercalate, spaced_toList,
    normalizeUtterance_toList, splitBlank_lower]

end SpokenIntent
