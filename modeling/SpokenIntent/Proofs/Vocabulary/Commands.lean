import SpokenIntent.Proofs.Recognition.Lessons
import SpokenIntent.Vocabulary.Commands

/-!
What is to be done about a text, told by the intents that are registered and the table of commands. The
first intent that matches decides, provided that it has a placeholder. Without placeholders an intent comes
to no more than none at all: both leave the text to the table.
-/

namespace SpokenIntent

namespace CommandTable

/-- The entry of an utterance. -/
def lookup (table : CommandTable) (utterance : String) : Dispatch :=
  match Dict.get? utterance table.commands with
  | some command => .command utterance command
  | none => .unmatched utterance

theorem resolve_unmatched (table : CommandTable) (text : String) :
    table.resolve ⟨text, []⟩ = table.lookup (normalizeUtterance text) := rfl

theorem lookup_known {commands : Dict String} {utterance command : String}
    (known : Dict.get? utterance commands = some command) :
    lookup ⟨commands⟩ utterance = .command utterance command := by
  simp [lookup, known]

theorem lookup_unknown {commands : Dict String} {utterance : String}
    (unknown : Dict.get? utterance commands = none) : lookup ⟨commands⟩ utterance = .unmatched utterance := by
  simp [lookup, unknown]

theorem lookup_utterance {table : CommandTable} {utterance other command : String}
    (found : table.lookup utterance = .command other command) : utterance = other := by
  simp only [lookup] at found
  split at found
  · cases found
    rfl
  · cases found

/-! ### Entities and numbers -/

def unreserved (captured : Dict String) : Dict String :=
  captured.filter fun entry => !IntentMatch.isReserved entry.1

theorem unreserved_sorted {captured : Dict String} (sorted : captured.Sorted) : (unreserved captured).Sorted :=
  sorted.sublist List.filter_sublist

/-- Of what a hypothesis has captured the matches hand on all but the reserved names. -/
theorem entitiesOf_payload (s : Snapshot) (sorted : s.entities.Sorted) :
    entitiesOf s.toPayload.intentMatches = unreserved s.entities := by
  have kept : (s.toPayload.intentMatches.filterMap fun m => m.entityValue?.map fun value => (m.entity, value)) =
      unreserved s.entities := by
    rw [Snapshot.toPayload, List.filterMap_map, unreserved, ← List.filterMap_eq_filter]
    congr
    funext entry
    by_cases taken : IntentMatch.isReserved entry.1 = true <;>
      simp [IntentMatch.entityValue?, Option.guard, taken]
  rw [entitiesOf, kept, Dict.ofList_sorted (unreserved_sorted sorted)]

theorem mem_numbersOf {entities : Dict String} {name : String} {n : Nat} :
    (name, n) ∈ numbersOf entities ↔
      name ∈ numericEntities ∧ ∃ value, (name, value) ∈ entities ∧ spokenNumber? value = some n := by
  rw [numbersOf, List.mem_filterMap]
  constructor
  · rintro ⟨⟨key, value⟩, member, number⟩
    simp only [Option.ite_none_right_eq_some, Option.map_eq_some_iff, Prod.mk.injEq] at number
    rcases number with ⟨numeric, _, spoken, rfl, rfl⟩
    exact ⟨List.contains_iff_mem.mp numeric, value, member, spoken⟩
  · rintro ⟨numeric, value, member, spoken⟩
    exact ⟨(name, value), member, by simp [numeric, spoken]⟩

theorem numbersOf_sorted {entities : Dict String} (sorted : entities.Sorted) : (numbersOf entities).Sorted := by
  rw [Dict.Sorted, numbersOf, List.pairwise_filterMap]
  apply sorted.imp
  rintro ⟨first, _⟩ ⟨second, _⟩ below ⟨_, _⟩ number ⟨_, _⟩ later
  simp only [Option.ite_none_right_eq_some, Option.map_eq_some_iff, Prod.mk.injEq] at number later
  rcases number with ⟨-, _, -, rfl, -⟩
  rcases later with ⟨-, _, -, rfl, -⟩
  exact below

/-! ### Answers -/

/-- What is to be done about a text. -/
inductive Answers (intents : List (Pattern × String)) (table : CommandTable) (text : String) :
    Dispatch → Prop where
  | intent {pattern : Pattern} {intentId : String} {captured : Dict String} {numbers : Dict Nat}
      (first : Vocabulary.First text intents pattern intentId captured) (placed : pattern.placeholders ≠ [])
      (keys : captured.Sorted ∧ ∀ name, (Dict.get? name captured).isSome ↔ name ∈ pattern.placeholders)
      (counts : numbers.Sorted ∧ ∀ name n, (name, n) ∈ numbers ↔ name ∈ numericEntities ∧
        ∃ value, (name, value) ∈ unreserved captured ∧ spokenNumber? value = some n) :
      Answers intents table text (.intent intentId (unreserved captured) numbers)
  | plain {pattern : Pattern} {intentId : String} {captured : Dict String}
      (first : Vocabulary.First text intents pattern intentId captured) (unplaced : pattern.placeholders = []) :
      Answers intents table text (table.lookup (normalizeUtterance text))
  | unheard (none : ∀ entry ∈ intents, entry.1.matches? text = none) :
      Answers intents table text (table.lookup (normalizeUtterance text))

/-- There is one answer at most: the first match, or that there is none, says which of the three it is. -/
theorem Answers.unique {intents : List (Pattern × String)} {table : CommandTable} {text : String}
    {dispatch other : Dispatch} (answers : Answers intents table text dispatch)
    (others : Answers intents table text other) : dispatch = other := by
  cases answers with
  | intent first placed keys counts =>
      cases others with
      | intent first' placed' keys' counts' =>
          rcases first.unique first' with ⟨-, rfl, rfl⟩
          have same := Dict.eq_of_mem_iff counts.1 counts'.1 fun e => (counts.2 e.1 e.2).trans (counts'.2 e.1 e.2).symm
          rw [same]
      | plain first' unplaced =>
          rcases first.unique first' with ⟨rfl, -, -⟩
          exact absurd unplaced placed
      | unheard none => exact (first.present none).elim
  | plain first unplaced =>
      cases others with
      | intent first' placed' keys' counts' =>
          rcases first.unique first' with ⟨rfl, -, -⟩
          exact absurd unplaced placed'
      | plain => rfl
      | unheard => rfl
  | unheard none =>
      cases others with
      | intent first' => exact (first'.present none).elim
      | plain => rfl
      | unheard => rfl

/-- A hypothesis of a recognizer is resolved to the answer to its text. -/
theorem recognize_answers {v : Vocabulary} {lessons : List Lesson} (knows : v.Knows lessons)
    (table : CommandTable) (utterance : String) :
    Answers (registered lessons) table (Vocabulary.bias (hints lessons) utterance)
      (table.resolve (Snapshot.capture (v.recognize utterance)).toPayload) := by
  simp only [Vocabulary.recognize, knows.phrases, knows.first]
  generalize Vocabulary.bias (hints lessons) utterance = text
  cases found : Vocabulary.firstMatch text (registered lessons) with
  | none => exact .unheard (Vocabulary.firstMatch_none.mp found)
  | some entry =>
      rcases entry with ⟨intentId, captured⟩
      rcases Vocabulary.firstMatch_some found with ⟨pattern, first⟩
      rcases Pattern.matches?_names first.fits with ⟨sorted, named⟩
      simp only [Snapshot.capture, Dict.ofList_sorted sorted]
      cases captured with
      | nil =>
          have unplaced : pattern.placeholders = [] := by
            apply List.eq_nil_iff_forall_not_mem.mpr
            intro name member
            have present := (named name).mpr member
            cases present
          exact .plain first unplaced
      | cons capture more =>
          have placed : pattern.placeholders ≠ [] := List.ne_nil_of_mem ((named capture.1).mp (by simp [Dict.get?]))
          have entities := entitiesOf_payload ⟨text, intentId, capture :: more⟩ sorted
          have resolved : table.resolve (Snapshot.toPayload ⟨text, intentId, capture :: more⟩) =
              .intent intentId (unreserved (capture :: more)) (numbersOf (unreserved (capture :: more))) := by
            rw [← entities]
            rfl
          rw [resolved]
          exact .intent first placed ⟨sorted, named⟩
            ⟨numbersOf_sorted (unreserved_sorted sorted), fun name n => mem_numbersOf⟩

end CommandTable

end SpokenIntent
