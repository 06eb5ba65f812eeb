import Mathlib.Data.List.Induction
import SpokenIntent.Proofs.Dict
import SpokenIntent.Recognition.Vocabulary

/-!
What an engine comes to know from the lessons that it has been given, and what it makes of a text then. It
goes by the first intent that matches. An intent that is registered again is not kept again; that changes
nothing, since of two that are the same the first one counts.
-/

namespace SpokenIntent

inductive Lesson where
  | intent (phrase intentId : String)
  | hint (phrase : String)

def Lesson.intent? : Lesson → Option (Pattern × String)
  | .intent phrase intentId => some (Pattern.parse phrase, intentId)
  | .hint _ => none

def Lesson.hint? : Lesson → Option String
  | .intent _ _ => none
  | .hint phrase => some phrase

/-- The intents of lessons, each as often as it has been registered. -/
def registered (lessons : List Lesson) : List (Pattern × String) := lessons.filterMap Lesson.intent?

def hints (lessons : List Lesson) : List String := lessons.filterMap Lesson.hint?

def Segment.name? : Segment → Option String
  | .word _ => none
  | .entity name => some name

/-- The names of the placeholders, in order. -/
def Pattern.placeholders (p : Pattern) : List String := p.segments.filterMap Segment.name?

/-! ### What placeholders capture -/

namespace Pattern

variable {found : List (String × String)}

theorem capture_names {rest : List Spoken → Option (List (String × String))} {name : String}
    {names : List String} (later : ∀ ws found, rest ws = some found → found.map Prod.fst = names)
    {taken : List String} {ws : List Spoken} (captured : capture rest name taken ws = some found) :
    found.map Prod.fst = name :: names := by
  induction ws generalizing taken with
  | nil => cases captured
  | cons w ws ih =>
      simp only [capture] at captured
      cases fits : rest ws with
      | none =>
          simp only [fits] at captured
          exact ih captured
      | some more =>
          simp only [fits, Option.some.injEq] at captured
          simp [← captured, later ws more fits]

theorem fit_names {segments : List Segment} {ws : List Spoken} (fits : fit segments ws = some found) :
    found.map Prod.fst = segments.filterMap Segment.name? := by
  induction segments generalizing ws found with
  | nil =>
      cases ws with
      | nil =>
          cases fits
          rfl
      | cons w ws => cases fits
  | cons segment segments ih =>
      cases segment with
      | word normal =>
          cases ws with
          | nil => cases fits
          | cons w ws =>
              simp only [fit] at fits
              split at fits
              · exact ih fits
              · cases fits
      | entity name =>
          simp only [fit] at fits
          exact capture_names (fun ws more => ih) fits

/-- What a match captures is a dictionary, and its names are those of the placeholders. -/
theorem matches?_names {p : Pattern} {text : String} {captured : Dict String}
    (fits : p.matches? text = some captured) :
    captured.Sorted ∧ ∀ name, (Dict.get? name captured).isSome ↔ name ∈ p.placeholders := by
  simp only [matches?] at fits
  split at fits
  · cases fits
  · simp only [Option.map_eq_some_iff] at fits
    rcases fits with ⟨found, fits, rfl⟩
    constructor
    · exact Dict.sorted_ofList found
    · intro name
      rw [Dict.get?_ofList, Dict.isSome_get?, List.map_reverse, List.mem_reverse, fit_names fits]
      rfl

end Pattern

namespace Vocabulary

/-! ### The first match -/

/-- The intent that a text goes by, with what its placeholders capture: those before it do not match. -/
structure First (text : String) (intents : List (Pattern × String)) (pattern : Pattern) (intentId : String)
    (captured : Dict String) : Prop where
  listed : ∃ before after, intents = before ++ (pattern, intentId) :: after ∧
    ∀ earlier ∈ before, earlier.1.matches? text = none
  fits : pattern.matches? text = some captured

theorem First.found {text : String} {intents : List (Pattern × String)} {pattern : Pattern} {intentId : String}
    {captured : Dict String} (first : First text intents pattern intentId captured) :
    intents.find? (fun entry => (entry.1.matches? text).isSome) = some (pattern, intentId) := by
  rcases first.listed with ⟨before, after, listed, passed⟩
  rw [List.find?_eq_some_iff_append]
  refine ⟨by simp [first.fits], before, after, listed, ?_⟩
  intro earlier member
  simp [passed earlier member]

theorem firstMatch_eq (text : String) (intents : List (Pattern × String)) :
    firstMatch text intents =
      intents.findSome? fun entry => (entry.1.matches? text).map fun captured => (entry.2, captured) := by
  induction intents with
  | nil => rfl
  | cons entry rest ih =>
      rw [firstMatch, List.findSome?_cons]
      cases entry.1.matches? text with
      | none => exact ih
      | some captured => rfl

theorem firstMatch_none {text : String} {intents : List (Pattern × String)} :
    firstMatch text intents = none ↔ ∀ entry ∈ intents, entry.1.matches? text = none := by
  simp [firstMatch_eq]

theorem firstMatch_some {text : String} {intents : List (Pattern × String)} {intentId : String}
    {captured : Dict String} (found : firstMatch text intents = some (intentId, captured)) :
    ∃ pattern, First text intents pattern intentId captured := by
  rw [firstMatch_eq, List.findSome?_eq_some_iff] at found
  rcases found with ⟨before, ⟨pattern, id⟩, after, listed, fits, passed⟩
  simp only [Option.map_eq_some_iff, Prod.mk.injEq] at fits
  rcases fits with ⟨values, fits, rfl, rfl⟩
  exact ⟨pattern, ⟨before, after, listed, by simpa using passed⟩, fits⟩

theorem First.present {text : String} {intents : List (Pattern × String)} {pattern : Pattern} {intentId : String}
    {captured : Dict String} (first : First text intents pattern intentId captured) :
    ¬ ∀ entry ∈ intents, entry.1.matches? text = none := by
  intro none
  rcases first.listed with ⟨before, after, listed, -⟩
  have here := none (pattern, intentId) (by simp [listed])
  rw [first.fits] at here
  cases here

/-- There is one first match at most. -/
theorem First.unique {text : String} {intents : List (Pattern × String)} {pattern pattern' : Pattern}
    {intentId intentId' : String} {captured captured' : Dict String}
    (first : First text intents pattern intentId captured) (other : First text intents pattern' intentId' captured') :
    pattern = pattern' ∧ intentId = intentId' ∧ captured = captured' := by
  have here := first.found
  rw [other.found, Option.some.injEq, Prod.mk.injEq] at here
  rcases here with ⟨rfl, rfl⟩
  have fits := first.fits
  rw [other.fits, Option.some.injEq] at fits
  exact ⟨rfl, rfl, fits.symm⟩

theorem firstMatch_again {text : String} {intents : List (Pattern × String)} {entry : Pattern × String}
    (known : entry ∈ intents) : firstMatch text (intents ++ [entry]) = firstMatch text intents := by
  rw [firstMatch_eq, List.findSome?_append, ← firstMatch_eq]
  cases found : firstMatch text intents with
  | some first => rfl
  | none => simp [firstMatch_none.mp found entry known]

/-! ### Lessons -/

def learn (v : Vocabulary) : Lesson → Vocabulary
  | .intent phrase intentId => v.addIntent phrase intentId
  | .hint phrase => v.addPhrase phrase

def taught (lessons : List Lesson) : Vocabulary := lessons.foldl learn empty

/-- A vocabulary that serves as well as one that holds every intent of the lessons. -/
structure Knows (v : Vocabulary) (lessons : List Lesson) : Prop where
  phrases : v.phrases = hints lessons
  parsed : ∀ entry ∈ v.intents, entry.1 = Pattern.parse entry.1.source
  first : ∀ text, firstMatch text v.intents = firstMatch text (registered lessons)

theorem registered_append (lessons more : List Lesson) :
    registered (lessons ++ more) = registered lessons ++ registered more := List.filterMap_append

theorem hints_append (lessons more : List Lesson) : hints (lessons ++ more) = hints lessons ++ hints more :=
  List.filterMap_append

theorem firstMatch_append_congr {text : String} {intents others : List (Pattern × String)}
    (same : firstMatch text intents = firstMatch text others) (more : List (Pattern × String)) :
    firstMatch text (intents ++ more) = firstMatch text (others ++ more) := by
  simp only [firstMatch_eq, List.findSome?_append] at same ⊢
  rw [same]

theorem learn_knows {v : Vocabulary} {lessons : List Lesson} (knows : Knows v lessons) (lesson : Lesson) :
    Knows (v.learn lesson) (lessons ++ [lesson]) := by
  cases lesson with
  | hint phrase =>
      have entry : registered [.hint phrase] = [] := rfl
      have heard : hints [.hint phrase] = [phrase] := rfl
      constructor
      · rw [hints_append, heard, ← knows.phrases]
        rfl
      · exact knows.parsed
      · intro text
        rw [registered_append, entry, List.append_nil]
        exact knows.first text
  | intent phrase intentId =>
      have entry : registered [.intent phrase intentId] = [(Pattern.parse phrase, intentId)] := rfl
      have heard : hints [.intent phrase intentId] = [] := rfl
      simp only [learn, addIntent]
      split
      · next again =>
        -- it is among the intents already, so another one at the end would not be the first
        rcases List.any_eq_true.mp again with ⟨⟨pattern, id⟩, member, same⟩
        simp only [Bool.and_eq_true, beq_iff_eq] at same
        have known : (Pattern.parse phrase, intentId) ∈ v.intents := by
          rw [← same.1, ← same.2, ← knows.parsed _ member]
          exact member
        constructor
        · rw [hints_append, heard, List.append_nil]
          exact knows.phrases
        · exact knows.parsed
        · intro text
          rw [registered_append, entry, ← firstMatch_append_congr (knows.first text), firstMatch_again known]
      · constructor
        · rw [hints_append, heard, List.append_nil]
          exact knows.phrases
        · intro added member
          rcases List.mem_append.mp member with old | new
          · exact knows.parsed added old
          · rw [List.mem_singleton.mp new]
            rfl
        · intro text
          rw [registered_append, entry]
          exact firstMatch_append_congr (knows.first text) _

theorem taught_append (lessons : List Lesson) (lesson : Lesson) :
    taught (lessons ++ [lesson]) = (taught lessons).learn lesson := by
  simp [taught]

theorem taught_knows (lessons : List Lesson) : Knows (taught lessons) lessons := by
  induction lessons using List.reverseRecOn with
  | nil => exact ⟨rfl, nofun, fun _ => rfl⟩
  | append_singleton lessons lesson ih =>
      rw [taught_append]
      exact learn_knows ih lesson

end Vocabulary

end SpokenIntent
