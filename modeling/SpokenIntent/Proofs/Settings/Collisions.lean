import SpokenIntent.Proofs.Settings.Normal
import SpokenIntent.Proofs.Vocabulary.Commands

/-!
Commands whose utterances come to the same when they are normalized. The table gets one of them: of those that are not
blank the one whose utterance, as it is written, is greatest in code point order. A blank command is no command: it
stands for nothing, nor does it take the place of another.
-/

namespace SpokenIntent

namespace Settings

/-- An entry for an utterance, to which its own comes. -/
def IsFor (utterance : String) (entry : String × String) : Prop :=
  normalizeUtterance entry.1 = utterance ∧ Text.trim entry.2 ≠ ""

/-- Of the entries for an utterance the greatest in code point order. -/
structure Wins (commands : Dict String) (utterance : String) (entry : String × String) : Prop where
  member : entry ∈ commands
  isFor : IsFor utterance entry
  greatest : ∀ other ∈ commands, IsFor utterance other → other.1 ≤ entry.1

theorem usable_iff {entry : String × String} :
    Usable entry ↔ normalizeUtterance entry.1 ≠ "" ∧ Text.trim entry.2 ≠ "" := by
  rw [Usable, ← Text.trim_isEmpty, ne_eq (Text.trim entry.2), ← String.isEmpty_iff, Bool.not_eq_true]

theorem normalizeCommand?_isFor {entry : String × String} {utterance command : String} :
    normalizeCommand? entry = some (utterance, command) ↔
      utterance ≠ "" ∧ IsFor utterance entry ∧ Text.trim entry.2 = command := by
  rw [normalizeCommand?_eq_some, usable_iff, IsFor, Prod.mk.injEq]
  constructor
  · rintro ⟨⟨some, filled⟩, rfl, rfl⟩
    exact ⟨some, ⟨rfl, filled⟩, rfl⟩
  · rintro ⟨some, ⟨rfl, filled⟩, rfl⟩
    exact ⟨⟨some, filled⟩, rfl, rfl⟩

/-- What is known of an utterance is the command of the entry that wins. -/
theorem get?_normalizeCommands {commands : Dict String} (sorted : commands.Sorted) {utterance command : String} :
    Dict.get? utterance (normalizeCommands commands) = some command ↔
      utterance ≠ "" ∧ ∃ entry, Wins commands utterance entry ∧ Text.trim entry.2 = command := by
  rw [normalizeCommands, Dict.get?_ofList_filterMap]
  constructor
  · rintro ⟨before, entry, after, rfl, here, last⟩
    rcases normalizeCommand?_isFor.mp here with ⟨some, isFor, trimmed⟩
    refine ⟨some, entry, ⟨by simp, isFor, ?_⟩, trimmed⟩
    intro other member others
    rcases List.mem_append.mp member with earlier | rest
    · have below : other.1 < entry.1 := (List.pairwise_append.mp sorted).2.2 other earlier entry List.mem_cons_self
      exact String.not_lt.mp (String.lt_asymm below)
    · rcases List.mem_cons.mp rest with rfl | later
      · exact String.le_refl _
      · exact absurd (normalizeCommand?_isFor.mpr ⟨some, others, rfl⟩) (last other later _)
  · rintro ⟨some, entry, wins, trimmed⟩
    rcases List.append_of_mem wins.member with ⟨before, after, rfl⟩
    refine ⟨before, entry, after, rfl, normalizeCommand?_isFor.mpr ⟨some, wins.isFor, trimmed⟩, ?_⟩
    intro later member other turned
    rcases normalizeCommand?_isFor.mp turned with ⟨-, isFor, -⟩
    have above : entry.1 < later.1 :=
      (List.pairwise_cons.mp (List.pairwise_append.mp sorted).2.1).1 later member
    have below : later.1 ≤ entry.1 := wins.greatest later (by simp [member]) isFor
    exact String.not_lt.mpr below above

theorem get?_normalizeCommands_none {commands : Dict String} {utterance : String} :
    Dict.get? utterance (normalizeCommands commands) = none ↔
      (utterance ≠ "" → ∀ entry ∈ commands, ¬ IsFor utterance entry) := by
  rw [← Option.not_isSome_iff_eq_none, isSome_normalizeCommands, Written]
  simp only [usable_iff, IsFor]
  constructor
  · rintro none some entry member ⟨rfl, filled⟩
    exact none ⟨entry, member, ⟨some, filled⟩, rfl⟩
  · rintro none ⟨entry, member, ⟨some, filled⟩, rfl⟩
    exact none some entry member ⟨rfl, filled⟩

/-- Commands that are not blank. -/
def notBlank (commands : Dict String) : Dict String := commands.filter fun entry => Text.trim entry.2 ≠ ""

theorem normalizeCommands_notBlank (commands : Dict String) :
    normalizeCommands (notBlank commands) = normalizeCommands commands := by
  have passed (entry : String × String) :
      (if decide (Text.trim entry.2 ≠ "") = true then normalizeCommand? entry else none) =
        normalizeCommand? entry := by
    split
    · rfl
    · next blank =>
      have blank : Text.trim entry.2 = "" := by simpa using blank
      simp [normalizeCommand?, blank]
  rw [normalizeCommands, notBlank, List.filterMap_filter, funext passed, ← normalizeCommands]

end Settings

namespace CommandTable

open Settings

/-- What is to be done about a text that no intent has to do with, where these are the commands. -/
inductive Settles (commands : Dict String) (text : String) : Dispatch → Prop where
  | command {entry : String × String} (some : normalizeUtterance text ≠ "")
      (wins : Wins commands (normalizeUtterance text) entry) :
      Settles commands text (.command (normalizeUtterance text) (Text.trim entry.2))
  | unmatched (none : normalizeUtterance text ≠ "" → ∀ entry ∈ commands, ¬ IsFor (normalizeUtterance text) entry) :
      Settles commands text (.unmatched (normalizeUtterance text))

/-- Whatever the commands are and whatever is said: without an intent it comes to the trimmed command of the entry
that wins, and to nothing known where there is no entry for it or nothing is left of it when it is normalized; and the
table is the one that there would be without the blank commands. -/
theorem resolve_settles {commands : Dict String} (sorted : commands.Sorted) :
    (∀ text outcome, resolve ⟨normalizeCommands commands⟩ ⟨text, []⟩ = outcome ↔ Settles commands text outcome) ∧
    normalizeCommands (notBlank commands) = normalizeCommands commands := by
  refine ⟨?_, normalizeCommands_notBlank commands⟩
  intro text outcome
  rw [resolve_unmatched]
  constructor
  · rintro rfl
    cases known : Dict.get? (normalizeUtterance text) (normalizeCommands commands) with
    | none =>
        rw [lookup_unknown known]
        exact .unmatched (get?_normalizeCommands_none.mp known)
    | some command =>
        rw [lookup_known known]
        rcases (get?_normalizeCommands sorted).mp known with ⟨some, entry, wins, rfl⟩
        exact .command some wins
  · intro settles
    cases settles with
    | command some wins => exact lookup_known ((get?_normalizeCommands sorted).mpr ⟨some, _, wins, rfl⟩)
    | unmatched none => exact lookup_unknown (get?_normalizeCommands_none.mpr none)

/-- What is greatest is blank, and the one before it wins. -/
theorem resolve_settles_undo :
    let commands : Dict String := [("Undo", "first"), ("undo", " second "), ("undo.", " "), ("undone", "third")]
    commands.Sorted ∧ resolve ⟨normalizeCommands commands⟩ ⟨"UNDO. ", []⟩ = .command "undo" "second" := by
  intro commands
  have sorted : commands.Sorted := by unfold Dict.Sorted; decide
  have heard : normalizeUtterance "UNDO. " = "undo" := by decide +kernel
  have wins : Wins commands (normalizeUtterance "UNDO. ") ("undo", " second ") :=
    { member := by decide
      isFor := by unfold IsFor; decide +kernel
      greatest := by unfold IsFor; decide +kernel }
  have trimmed : Text.trim " second " = "second" := by decide +kernel
  have settled := Settles.command (by rw [heard]; decide) wins
  rw [heard, trimmed] at settled
  exact ⟨sorted, ((resolve_settles sorted).1 "UNDO. " _).mpr settled⟩

end CommandTable

end SpokenIntent
