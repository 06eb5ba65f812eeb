import Mathlib.Data.List.Basic
import Mathlib.Data.List.Forall2
import SpokenIntent.Proofs.Recognition.Lessons
import SpokenIntent.Proofs.Text.Trim

/-!
Patterns as cuts. A pattern matches an utterance exactly if its words can be cut into blocks, one for every
segment. Of all such cuts the one is taken that gives the first placeholder the fewest words, then the second,
and so on; no two cuts give all placeholders as many.
-/

namespace SpokenIntent

theorem trimEdges_eq_self (word : String) : trimEdges word = word ↔ Text.Bare isEdge word.toList := by
  constructor
  · intro same
    rw [← same, trimEdges, String.toList_ofList]
    exact Text.dropEnds_bare isEdge word.toList
  · intro bare
    rw [trimEdges, Text.dropEnds_eq_self bare, String.ofList_toList]

def Spoken.ofWord (word : String) : Spoken := ⟨normalizeWord word, trimEdges word⟩

@[simp] theorem Spoken.ofWord_normal (word : String) : (Spoken.ofWord word).normal = normalizeWord word := rfl

/-- The words of an utterance that are more than punctuation, as they are written. -/
def heardWords (utterance : String) : List String :=
  (Text.words utterance).filter fun word => !(normalizeWord word).isEmpty

theorem spokenWords_eq (utterance : String) : spokenWords utterance = (heardWords utterance).map Spoken.ofWord := by
  change ((Text.words utterance).map Spoken.ofWord).filter _ = _
  simp only [List.filter_map, Function.comp_def, Spoken.ofWord_normal, heardWords]

/-- What a segment stands for: a plain word for one word with its normal form, a placeholder for one word or
more. -/
inductive Segment.Takes : Segment → List String → Prop where
  | word {normal word : String} (same : normalizeWord word = normal) : Takes (.word normal) [word]
  | entity {name : String} {block : List String} (filled : block ≠ []) : Takes (.entity name) block

theorem Segment.takes_word {normal word : String} :
    (Segment.word normal).Takes [word] ↔ normalizeWord word = normal := by
  constructor
  · rintro ⟨same⟩
    exact same
  · exact .word

/-- Words cut into blocks, one for every segment, in order. -/
structure Cut (segments : List Segment) (words : List String) (blocks : List (List String)) : Prop where
  takes : List.Forall₂ Segment.Takes segments blocks
  whole : blocks.flatten = words

namespace Cut

/-- The placeholders with their blocks. -/
def placed : List Segment → List (List String) → List (String × List String)
  | .entity name :: segments, block :: blocks => (name, block) :: placed segments blocks
  | .word _ :: segments, _ :: blocks => placed segments blocks
  | _, _ => []

/-- How many words each placeholder has. -/
def lengths (segments : List Segment) (blocks : List (List String)) : List Nat :=
  (placed segments blocks).map fun entry => entry.2.length

/-- What each placeholder captures: its words without the punctuation around them. -/
def captures (segments : List Segment) (blocks : List (List String)) : List (String × String) :=
  (placed segments blocks).map fun entry => (entry.1, Text.unwords (entry.2.map trimEdges))

/-- The cut before all others, in the lexicographic order of lengths. -/
structure Least (segments : List Segment) (words : List String) (blocks : List (List String)) : Prop where
  cut : Cut segments words blocks
  least : ∀ other, Cut segments words other →
    other = blocks ∨ lengths segments blocks < lengths segments other

variable {segments : List Segment} {words : List String} {blocks : List (List String)}

theorem nil_iff : Cut [] words blocks ↔ words = [] ∧ blocks = [] := by
  constructor
  · rintro ⟨takes, whole⟩
    cases takes
    exact ⟨whole.symm, rfl⟩
  · rintro ⟨rfl, rfl⟩
    exact ⟨.nil, rfl⟩

theorem word_iff {normal : String} :
    Cut (.word normal :: segments) words blocks ↔
      ∃ word after rest, words = word :: after ∧ blocks = [word] :: rest ∧ normalizeWord word = normal ∧
        Cut segments after rest := by
  constructor
  · rintro ⟨takes, whole⟩
    cases takes with
    | cons first later =>
        cases first with
        | word same => exact ⟨_, _, _, whole.symm, rfl, same, later, rfl⟩
  · rintro ⟨word, after, rest, rfl, rfl, same, later, whole⟩
    exact ⟨.cons (.word same) later, by simp [whole]⟩

theorem entity_iff {name : String} :
    Cut (.entity name :: segments) words blocks ↔
      ∃ block after rest, words = block ++ after ∧ blocks = block :: rest ∧ block ≠ [] ∧
        Cut segments after rest := by
  constructor
  · rintro ⟨takes, whole⟩
    cases takes with
    | cons first later =>
        cases first with
        | entity filled => exact ⟨_, _, _, whole.symm, rfl, filled, later, rfl⟩
  · rintro ⟨block, after, rest, rfl, rfl, filled, later, whole⟩
    exact ⟨.cons (.entity filled) later, by simp [whole]⟩

/-! ### A word for each segment -/

theorem length_le (cut : Cut segments words blocks) : segments.length ≤ words.length := by
  induction segments generalizing words blocks with
  | nil => exact Nat.zero_le _
  | cons segment segments ih =>
      cases segment with
      | word normal =>
          rcases word_iff.mp cut with ⟨word, after, rest, rfl, -, -, later⟩
          simpa using ih later
      | entity name =>
          rcases entity_iff.mp cut with ⟨block, after, rest, rfl, -, filled, later⟩
          have first := List.length_pos_iff.mpr filled
          have others := ih later
          simp only [List.length_cons, List.length_append]
          omega

/-- Where there are as many words as segments, each segment has one. -/
theorem each (cut : Cut segments words blocks) (same : words.length = segments.length) :
    List.Forall₂ (fun segment w => segment.Takes [w]) segments words := by
  induction segments generalizing words blocks with
  | nil =>
      rcases nil_iff.mp cut with ⟨rfl, -⟩
      exact .nil
  | cons segment segments ih =>
      cases segment with
      | word normal =>
          rcases word_iff.mp cut with ⟨word, after, rest, rfl, -, fits, later⟩
          exact .cons (.word fits) (ih later (by simpa using same))
      | entity name =>
          rcases entity_iff.mp cut with ⟨block, after, rest, rfl, -, filled, later⟩
          have others := later.length_le
          have first := List.length_pos_iff.mpr filled
          rw [List.length_append, List.length_cons] at same
          have single : block.length = 1 := by omega
          have equal : after.length = segments.length := by omega
          rcases List.length_eq_one_iff.mp single with ⟨word, rfl⟩
          exact .cons (.entity (by simp)) (ih later equal)

theorem of_each (each : List.Forall₂ (fun segment w => segment.Takes [w]) segments words) :
    Cut segments words (words.map fun w => [w]) where
  takes := List.forall₂_map_right_iff.mpr each
  whole := by
    clear each
    induction words with
    | nil => rfl
    | cons w words ih => rw [List.map_cons, List.flatten_cons, ih, List.singleton_append]

end Cut

namespace Pattern

/-! ### The block of a placeholder -/

section Capture
variable {rest : List Spoken → Option (List (String × String))} {name : String}

theorem capture_none {taken : List String} {words : List String}
    (missed : capture rest name taken (words.map Spoken.ofWord) = none) {block after : List String}
    (split : words = block ++ after) (filled : block ≠ []) : rest (after.map Spoken.ofWord) = none := by
  induction words generalizing taken block with
  | nil => simp_all
  | cons w words ih =>
      cases block with
      | nil => exact absurd rfl filled
      | cons b block =>
          rw [List.cons_append, List.cons.injEq] at split
          simp only [List.map_cons, capture] at missed
          cases fits : rest (words.map Spoken.ofWord) with
          | some found => simp [fits] at missed
          | none =>
              simp only [fits] at missed
              by_cases last : block = []
              · rwa [split.2, last, List.nil_append] at fits
              · exact ih missed split.2 last

/-- The block that is captured is the shortest after which the rest fits. -/
theorem capture_some {taken : List String} {words : List String} {found : List (String × String)}
    (captured : capture rest name taken (words.map Spoken.ofWord) = some found) :
    ∃ block after more, words = block ++ after ∧ block ≠ [] ∧ rest (after.map Spoken.ofWord) = some more ∧
      found = (name, Text.unwords (taken ++ block.map trimEdges)) :: more ∧
      ∀ block' after', words = block' ++ after' → block' ≠ [] → block'.length < block.length →
        rest (after'.map Spoken.ofWord) = none := by
  induction words generalizing taken with
  | nil => cases captured
  | cons w words ih =>
      simp only [List.map_cons, capture] at captured
      cases fits : rest (words.map Spoken.ofWord) with
      | some more =>
          simp only [fits, Option.some.injEq] at captured
          refine ⟨[w], words, more, rfl, by simp, fits, captured.symm, ?_⟩
          intro block' after' split filled shorter
          exact absurd (List.length_eq_zero_iff.mp (Nat.lt_one_iff.mp shorter)) filled
      | none =>
          simp only [fits] at captured
          rcases ih captured with ⟨block, after, more, rfl, filled, later, same, first⟩
          refine ⟨w :: block, after, more, rfl, by simp, later, by simpa [Spoken.ofWord] using same, ?_⟩
          intro block' after' split filled' shorter
          cases block' with
          | nil => exact absurd rfl filled'
          | cons b block' =>
              rw [List.cons_append, List.cons.injEq] at split
              by_cases last : block' = []
              · rwa [split.2, last, List.nil_append] at fits
              · exact first block' after' split.2 last (Nat.lt_of_succ_lt_succ shorter)

end Capture

/-! ### The segments -/

theorem fit_complete {segments : List Segment} {words : List String} {blocks : List (List String)}
    (cut : Cut segments words blocks) : fit segments (words.map Spoken.ofWord) ≠ none := by
  induction segments generalizing words blocks with
  | nil =>
      rcases Cut.nil_iff.mp cut with ⟨rfl, -⟩
      simp [fit]
  | cons segment segments ih =>
      cases segment with
      | word normal =>
          rcases Cut.word_iff.mp cut with ⟨word, after, rest, rfl, -, same, later⟩
          simp only [List.map_cons, fit, Spoken.ofWord, same, ↓reduceIte]
          exact ih later
      | entity name =>
          rcases Cut.entity_iff.mp cut with ⟨block, after, rest, split, -, filled, later⟩
          intro missed
          exact ih later (capture_none missed split filled)

/-- What is captured comes from the least cut. -/
theorem fit_least {segments : List Segment} {words : List String} {found : List (String × String)}
    (fits : fit segments (words.map Spoken.ofWord) = some found) :
    ∃ blocks, Cut.Least segments words blocks ∧ found = Cut.captures segments blocks := by
  induction segments generalizing words found with
  | nil =>
      cases words with
      | cons w words => cases fits
      | nil =>
          cases fits
          refine ⟨[], ⟨Cut.nil_iff.mpr ⟨rfl, rfl⟩, ?_⟩, rfl⟩
          intro other cut
          exact .inl (Cut.nil_iff.mp cut).2
  | cons segment segments ih =>
      cases segment with
      | word normal =>
          cases words with
          | nil => cases fits
          | cons w words =>
              simp only [List.map_cons, fit, Option.ite_none_right_eq_some] at fits
              rcases ih fits.2 with ⟨blocks, least, rfl⟩
              refine ⟨[w] :: blocks, ⟨Cut.word_iff.mpr ⟨w, words, blocks, rfl, rfl, fits.1, least.cut⟩, ?_⟩, rfl⟩
              intro other cut
              rcases Cut.word_iff.mp cut with ⟨w', after, rest, split, rfl, -, later⟩
              rw [List.cons.injEq] at split
              rcases split with ⟨rfl, rfl⟩
              exact (least.least rest later).imp_left fun same => by rw [same]
      | entity name =>
          rcases capture_some fits with ⟨block, after, more, rfl, filled, later, rfl, first⟩
          rcases ih later with ⟨blocks, least, rfl⟩
          refine ⟨block :: blocks,
            ⟨Cut.entity_iff.mpr ⟨block, after, blocks, rfl, rfl, filled, least.cut⟩, ?_⟩, rfl⟩
          intro other cut
          rcases Cut.entity_iff.mp cut with ⟨block', after', rest, split, rfl, filled', later'⟩
          rcases Nat.lt_trichotomy block'.length block.length with shorter | same | longer
          · -- the rest would have fitted after the shorter block
            exact absurd (first block' after' split filled' shorter) (fit_complete later')
          · rcases List.append_inj split same.symm with ⟨rfl, rfl⟩
            rcases least.least rest later' with rfl | before
            · exact .inl rfl
            · exact .inr (List.cons_lt_cons_iff.mpr (.inr ⟨rfl, before⟩))
          · exact .inr (List.cons_lt_cons_iff.mpr (.inl longer))

/-! ### The whole utterance -/

theorem matches?_eq_some {p : Pattern} {utterance : String} {captured : Dict String} :
    p.matches? utterance = some captured ↔
      p.segments ≠ [] ∧ heardWords utterance ≠ [] ∧
        ∃ found, fit p.segments ((heardWords utterance).map Spoken.ofWord) = some found ∧
          Dict.ofList found = captured := by
  simp only [matches?, spokenWords_eq, Option.ite_none_left_eq_some, Option.map_eq_some_iff, Bool.or_eq_true,
    List.isEmpty_iff, List.map_eq_nil_iff, not_or, and_assoc, ne_eq]

theorem isSome_matches? {p : Pattern} {utterance : String} :
    (p.matches? utterance).isSome ↔
      p.segments ≠ [] ∧ heardWords utterance ≠ [] ∧ ∃ blocks, Cut p.segments (heardWords utterance) blocks := by
  rw [Option.isSome_iff_exists]
  constructor
  · rintro ⟨captured, matched⟩
    rcases matches?_eq_some.mp matched with ⟨some, heard, found, fits, -⟩
    rcases fit_least fits with ⟨blocks, least, -⟩
    exact ⟨some, heard, blocks, least.cut⟩
  · rintro ⟨some, heard, blocks, cut⟩
    rcases Option.ne_none_iff_exists'.mp (fit_complete cut) with ⟨found, fits⟩
    exact ⟨Dict.ofList found, matches?_eq_some.mpr ⟨some, heard, found, fits, rfl⟩⟩

/-- A pattern matches exactly if it can be cut to fit; and what it captures then comes from the least of the
cuts. Of placeholders with the same name the last one counts. -/
theorem matches?_canonical (source utterance : String) :
    (((parse source).matches? utterance).isSome ↔
      (parse source).segments ≠ [] ∧ heardWords utterance ≠ [] ∧
        ∃ blocks, Cut (parse source).segments (heardWords utterance) blocks) ∧
    ∀ captured, (parse source).matches? utterance = some captured →
      ∃ blocks, Cut.Least (parse source).segments (heardWords utterance) blocks ∧
        captured.Sorted ∧ (∀ name, name ∈ captured.map Prod.fst ↔ name ∈ (parse source).placeholders) ∧
        ∀ name value, (name, value) ∈ captured ↔
          ∃ before after, Cut.captures (parse source).segments blocks = before ++ (name, value) :: after ∧
            name ∉ after.map Prod.fst := by
  constructor
  · exact isSome_matches?
  · intro captured matched
    rcases matches?_names matched with ⟨sorted, names⟩
    rcases matches?_eq_some.mp matched with ⟨-, -, found, fits, rfl⟩
    rcases fit_least fits with ⟨blocks, least, rfl⟩
    refine ⟨blocks, least, sorted, ?_, ?_⟩
    · intro name
      rw [← Dict.isSome_get?]
      exact names name
    · intro name value
      exact Dict.mem_ofList_iff

/-- The first placeholder could have taken more, and what it did take is lost to the second of its name. -/
theorem repeated_name_canonical :
    let pattern := parse "put {x} ON {x} {y}"
    let words := ["Put,", "the", "cat", "on", "it", "on", "top!"]
    pattern.matches? "Put, the  cat on -- it on top!" = some [("x", "it"), ("y", "on top")] ∧
    ∃ blocks, Cut.Least pattern.segments words blocks ∧
      ∀ name value, (name, value) ∈ [("x", "it"), ("y", "on top")] ↔
        ∃ before after, Cut.captures pattern.segments blocks = before ++ (name, value) :: after ∧
          name ∉ after.map Prod.fst := by
  intro pattern words
  have matched : pattern.matches? "Put, the  cat on -- it on top!" = some [("x", "it"), ("y", "on top")] := by
    decide +kernel
  have heard : heardWords "Put, the  cat on -- it on top!" = words := by decide +kernel
  rcases matches?_canonical "put {x} ON {x} {y}" "Put, the  cat on -- it on top!" with ⟨-, canonical⟩
  rcases canonical _ matched with ⟨blocks, least, -, -, last⟩
  rw [heard] at least
  exact ⟨matched, blocks, least, last⟩

end Pattern

end SpokenIntent
