import SpokenIntent.Proofs.Recognition.Cuts
import SpokenIntent.Proofs.Text.Alphanumeric
import SpokenIntent.Proofs.Text.Words

/-!
Case in what is said. Words are trimmed before they are put in lower case, so lower case may lay bare an edge: the
dotted capital I ends in a combining dot then. It makes no difference to any pattern exactly if no word of the
utterance ends so.
-/

namespace SpokenIntent

open Text (lower lowerAfter lowerBetween)

/-! ### Edges -/

theorem isEdge_eq_false {c : Char} : isEdge c = false ↔ Text.isAlphanumeric c = true ∨ c = '\'' := by
  rw [isEdge, Bool.and_eq_false_iff, Bool.not_eq_false', bne_eq_false_iff_eq]

theorem ascii_edges : ∀ n < 0x80,
    let c := Char.ofNat n
    isEdge c.toLower = isEdge c ∧ (isEdge c = true → c.toLower = c) := by
  decide +kernel

/-- What is trimmed off is no letter of any case. -/
theorem edge_plain {c : Char} (edge : isEdge c = true) : Text.Settled c ∧ Text.isCased c = false := by
  have uncased : Text.isCased c = false := by
    rw [Bool.eq_false_iff]
    intro cased
    rw [isEdge_eq_false.mpr (.inl (Text.isAlphanumeric_of_isCased cased))] at edge
    cases edge
  refine ⟨⟨?_, ?_⟩, uncased⟩
  · rintro rfl
    cases edge
  · have lowersTo := Text.lowerAlone_lowersTo c
    generalize Text.lowerAlone c = lowered at lowersTo ⊢
    cases lowersTo with
    | ascii small =>
        have fixed := (ascii_edges c.toNat small).2
        simp only [Char.ofNat_toNat] at fixed
        rw [fixed edge]
    | dotted capital =>
        subst capital
        cases edge
    | letter _ _ known held =>
        rw [(Text.isCased_of_holds known held).1] at uncased
        cases uncased
    | other => rfl

/-- A letter begins with a letter in lower case too. It ends with one unless it is the dotted capital I. -/
theorem lowerBetween_edges {c : Char} (letter : isEdge c = false) (before after : List Char) :
    (∀ d ∈ (lowerBetween before c after).head?, isEdge d = false) ∧
      ∀ d ∈ (lowerBetween before c after).getLast?, isEdge d = true ↔ c = '\u0130' := by
  have alone {d : Char} (undotted : c ≠ '\u0130') (letter : isEdge d = false) :
      (∀ e ∈ [d].head?, isEdge e = false) ∧ ∀ e ∈ [d].getLast?, isEdge e = true ↔ c = '\u0130' := by
    simp [letter, undotted]
  by_cases sigma : c = '\u03A3'
  · subst sigma
    simp only [lowerBetween, ↓reduceIte]
    split
    · exact alone (by decide) rfl
    · exact alone (by decide) rfl
  · have lowersTo := Text.lowerAlone_lowersTo c
    simp only [lowerBetween, sigma, ↓reduceIte]
    generalize Text.lowerAlone c = lowered at lowersTo ⊢
    cases lowersTo with
    | ascii small =>
        have same := (ascii_edges c.toNat small).1
        simp only [Char.ofNat_toNat] at same
        apply alone
        · rintro rfl
          exact absurd small (by decide)
        · rw [same, letter]
    | dotted capital =>
        have i : isEdge 'i' = false := rfl
        have dot : isEdge '\u0307' = true := rfl
        simp [i, dot, capital]
    | letter _ undotted known held =>
        have code := (Text.image_plain known held rfl).1
        have cased := (Text.isCased_of_holds known held).2 _ code
        apply alone undotted
        exact isEdge_eq_false.mpr (.inl (Text.isAlphanumeric_of_isCased cased))
    | other undotted => exact alone undotted letter

/-- The lower case of a word without edges begins without one. -/
theorem lowerAfter_edges {cs : List Char} (bare : Text.Bare isEdge cs) (before : List Char) :
    (∀ d ∈ (lowerAfter before cs).head?, isEdge d = false) ∧
      ∀ d ∈ (lowerAfter before cs).getLast?, isEdge d = true ↔ cs.getLast? = some '\u0130' := by
  rcases Text.lowerAfter_ends before cs with ⟨heads, lasts⟩
  constructor
  · intro d first
    rcases heads d first with ⟨c, here, b, a, lowers⟩
    exact (lowerBetween_edges (bare.head c here) b a).1 d lowers
  · intro d last
    rcases lasts d last with ⟨c, here, b, a, lowers⟩
    rw [(lowerBetween_edges (bare.last c here) b a).2 d lowers, show cs.getLast? = some c from here, Option.some.injEq]

/-! ### A word in lower case -/

/-- Edges stay where they are, and make no difference to what is between them. -/
theorem lowerAfter_within {before after : List Char} (early : ∀ c ∈ before, isEdge c = true)
    (late : ∀ c ∈ after, isEdge c = true) (cs : List Char) :
    lowerAfter [] (before ++ (cs ++ after)) = before ++ (lowerAfter [] cs ++ after) := by
  have first : Text.meetsCased (before.reverse ++ []) = false := by
    apply Text.meetsCased_uncased
    intro c member
    exact (edge_plain (early c (by simpa using member))).2
  have last : Text.meetsCased after = false := Text.meetsCased_uncased fun c member => (edge_plain (late c member)).2
  rw [Text.lowerAfter_fixed (fun c member => (edge_plain (early c member)).1), Text.lowerAfter_append last,
    Text.lowerAfter_eq_self (fun c member => (edge_plain (late c member)).1),
    ← List.nil_append (before.reverse ++ []), Text.lowerAfter_beyond first]

theorem normalizeWord_lower (word : String) : normalizeWord (lower word) = trimEdges (normalizeWord word) := by
  rcases Text.dropEnds_parts isEdge word.toList with ⟨before, after, parts, early, late⟩
  have lowered : Text.dropEnds isEdge (lowerAfter [] word.toList) =
      Text.dropEnds isEdge (lowerAfter [] (Text.dropEnds isEdge word.toList)) := by
    conv_lhs => rw [← parts, lowerAfter_within early late, Text.dropEnds_surplus early late]
  rcases Text.dropEnds_parts isEdge (lowerAfter [] word.toList) with ⟨front, back, whole, -, -⟩
  have settled : ∀ c ∈ Text.dropEnds isEdge (lowerAfter [] word.toList), Text.Settled c := by
    intro c member
    apply Text.lowerAfter_settled [] word.toList
    rw [← whole]
    exact List.mem_append_right _ (List.mem_append_left _ member)
  simp only [normalizeWord, trimEdges, lower, String.toList_ofList]
  rw [Text.lowerAfter_eq_self settled, lowered]

theorem normalizeWord_toList (word : String) :
    (normalizeWord word).toList = lowerAfter [] (Text.dropEnds isEdge word.toList) := by
  simp only [normalizeWord, trimEdges, lower, String.toList_ofList]

theorem normalizeWord_edges (word : String) :
    (∀ d ∈ (normalizeWord word).toList.head?, isEdge d = false) ∧
      ∀ d ∈ (normalizeWord word).toList.getLast?, isEdge d = true ↔ (trimEdges word).toList.getLast? = some '\u0130' := by
  rw [normalizeWord_toList, trimEdges, String.toList_ofList]
  exact lowerAfter_edges (Text.dropEnds_bare isEdge word.toList) []

/-- A word is heard the same in lower case, but for a dotted capital I at its end. -/
theorem normalizeWord_lower_eq (word : String) :
    normalizeWord (lower word) = normalizeWord word ↔ (trimEdges word).toList.getLast? ≠ some '\u0130' := by
  rcases normalizeWord_edges word with ⟨first, last⟩
  rw [normalizeWord_lower, trimEdges_eq_self]
  constructor
  · intro bare dotted
    have some : (normalizeWord word).toList ≠ [] := by
      rw [normalizeWord_toList, ne_eq, Text.lowerAfter_eq_nil]
      intro none
      rw [trimEdges, String.toList_ofList, none] at dotted
      cases dotted
    rcases Option.ne_none_iff_exists'.mp (List.getLast?_eq_none_iff.not.mpr some) with ⟨d, found⟩
    have solid := bare.last d found
    rw [(last d found).mpr dotted] at solid
    cases solid
  · intro undotted
    refine ⟨first, ?_⟩
    intro d found
    rw [Bool.eq_false_iff]
    intro edge
    exact undotted ((last d found).mp edge)

/-- More than punctuation is so in lower case. -/
theorem normalizeWord_lower_isEmpty (word : String) :
    (normalizeWord (lower word)).isEmpty = (normalizeWord word).isEmpty := by
  rw [Bool.eq_iff_iff, String.isEmpty_iff, String.isEmpty_iff, normalizeWord_lower, trimEdges,
    String.ofList_eq_empty_iff, Text.dropEnds_eq_nil, ← String.toList_eq_nil_iff]
  constructor
  · intro edges
    cases normal : (normalizeWord word).toList with
    | nil => rfl
    | cons d rest =>
        have solid := (normalizeWord_edges word).1 d (by simp [normal])
        rw [edges d (by simp [normal])] at solid
        cases solid
  · intro none
    simp [none]

/-! ### Utterances -/

theorem words_lower (s : String) : Text.words (lower s) = (Text.words s).map lower := by
  simp only [Text.words, lower, String.toList_ofList, Text.splitBlank_lower, List.map_map, Function.comp_def]

theorem heardWords_lower (utterance : String) : heardWords (lower utterance) = (heardWords utterance).map lower := by
  simp only [heardWords, words_lower, List.filter_map, Function.comp_def, normalizeWord_lower_isEmpty]

/-- Only the normal forms of words count for a cut. -/
theorem Cut.alike {segments : List Segment} {words words' : List String} {blocks : List (List String)}
    (alike : words'.map normalizeWord = words.map normalizeWord) (cut : Cut segments words blocks) :
    ∃ blocks', Cut segments words' blocks' := by
  induction segments generalizing words words' blocks with
  | nil =>
      rcases nil_iff.mp cut with ⟨rfl, -⟩
      exact ⟨[], nil_iff.mpr ⟨List.map_eq_nil_iff.mp alike, rfl⟩⟩
  | cons segment segments ih =>
      cases segment with
      | word normal =>
          rcases word_iff.mp cut with ⟨word, after, rest, rfl, -, fits, later⟩
          rcases List.map_eq_cons_iff.mp alike with ⟨word', after', rfl, same, more⟩
          rcases ih more later with ⟨rest', later'⟩
          exact ⟨_, word_iff.mpr ⟨word', after', rest', rfl, rfl, same.trans fits, later'⟩⟩
      | entity name =>
          rcases entity_iff.mp cut with ⟨block, after, rest, rfl, -, filled, later⟩
          rw [List.map_append] at alike
          rcases List.map_eq_append_iff.mp alike with ⟨block', after', rfl, same, more⟩
          rcases ih more later with ⟨rest', later'⟩
          refine ⟨_, entity_iff.mpr ⟨block', after', rest', rfl, rfl, ?_, later'⟩⟩
          rintro rfl
          exact filled (List.map_eq_nil_iff.mp same.symm)

namespace Pattern

/-- An utterance as a pattern, of plain words only: no brace is left at the edges of its words. -/
def spelled (utterance : String) : Pattern := parse (Text.unwords ((heardWords utterance).map trimEdges))

theorem ofToken?_trimmed {word : String} (heard : normalizeWord word ≠ "") :
    Segment.ofToken? (trimEdges word) = some (.word (normalizeWord word)) := by
  have bare := Text.dropEnds_bare isEdge word.toList
  have again : trimEdges (trimEdges word) = trimEdges word :=
    (trimEdges_eq_self _).mpr (by rwa [trimEdges, String.toList_ofList])
  have plain : placeholder? (trimEdges word) = none := by
    rw [placeholder?, trimEdges, String.toList_ofList]
    split
    · next rest opened =>
      have solid := bare.head '{' (by simp [opened])
      cases solid
    · rfl
  rw [Segment.ofToken?, plain]
  simp only [normalizeWord, again] at heard ⊢
  rw [if_neg (by rwa [String.isEmpty_iff])]

theorem heardWords_trimmed {utterance word : String} (here : word ∈ heardWords utterance) :
    normalizeWord word ≠ "" ∧ trimEdges word ≠ "" ∧ Text.Whole (trimEdges word).toList := by
  rcases List.mem_filter.mp here with ⟨spoken, heard⟩
  have some : normalizeWord word ≠ "" := by simpa using heard
  refine ⟨some, ?_, ?_⟩
  · intro none
    rw [normalizeWord, none] at some
    exact some rfl
  · rcases Text.dropEnds_parts isEdge word.toList with ⟨before, after, parts, -, -⟩
    intro c member
    apply (Text.words_solid utterance word spoken).2
    rw [trimEdges, String.toList_ofList] at member
    rw [← parts]
    exact List.mem_append_right _ (List.mem_append_left _ member)

theorem segments_spelled (utterance : String) :
    (spelled utterance).segments = (heardWords utterance).map fun word => .word (normalizeWord word) := by
  have solid : ∀ w ∈ (heardWords utterance).map trimEdges, w ≠ "" ∧ Text.Whole w.toList :=
    List.forall_mem_map.mpr fun word here => (heardWords_trimmed here).2
  have each : (heardWords utterance).filterMap (Segment.ofToken? ∘ trimEdges) =
      (heardWords utterance).filterMap (some ∘ fun word => .word (normalizeWord word)) := by
    apply List.filterMap_congr
    intro word here
    rw [Function.comp_apply, ofToken?_trimmed (heardWords_trimmed here).1, Function.comp_apply]
  rw [spelled, parse, Text.words_unwords solid, List.filterMap_map, each, List.filterMap_eq_map]

/-- Case makes no difference to what patterns match, exactly if none of the words that are heard ends in a dotted
capital I. -/
theorem isSome_matches?_lower (utterance : String) :
    (∀ source, ((parse source).matches? (lower utterance)).isSome = ((parse source).matches? utterance).isSome) ↔
      ∀ word ∈ heardWords utterance, (trimEdges word).toList.getLast? ≠ some '\u0130' := by
  constructor
  · -- the utterance itself, spelled as a pattern, would not match its lower case
    intro same word here
    have heard : heardWords utterance ≠ [] := List.ne_nil_of_mem here
    have some : (spelled utterance).segments ≠ [] := by simpa [segments_spelled] using heard
    have spoken : List.Forall₂ (fun segment w => segment.Takes [w]) (spelled utterance).segments
        (heardWords utterance) := by
      rw [segments_spelled, List.forall₂_map_left_iff, List.forall₂_same]
      exact fun word _ => .word rfl
    have matched : ((spelled utterance).matches? (lower utterance)).isSome := by
      rw [spelled, same]
      exact isSome_matches?.mpr ⟨some, heard, _, Cut.of_each spoken⟩
    rcases isSome_matches?.mp matched with ⟨-, -, blocks, cut⟩
    rw [heardWords_lower] at cut
    have each := cut.each (by simp [segments_spelled])
    rw [segments_spelled, List.forall₂_map_left_iff, List.forall₂_map_right_iff, List.forall₂_same] at each
    exact (normalizeWord_lower_eq word).mp (Segment.takes_word.mp (each word here))
  · intro undotted source
    have alike : ((heardWords utterance).map lower).map normalizeWord = (heardWords utterance).map normalizeWord := by
      rw [List.map_map]
      exact List.map_congr_left fun word here => (normalizeWord_lower_eq word).mpr (undotted word here)
    rw [Bool.eq_iff_iff, isSome_matches?, isSome_matches?, heardWords_lower, ne_eq _ [], ne_eq _ [],
      List.map_eq_nil_iff]
    apply and_congr_right'
    apply and_congr_right'
    constructor
    · rintro ⟨blocks, cut⟩
      exact cut.alike alike.symm
    · rintro ⟨blocks, cut⟩
      exact cut.alike alike

/-- The dot that is left over at the end of a word is trimmed off there, and not in the pattern. -/
theorem dotted_capital_unmatched :
    lower "X\u0130" = "xi\u0307" ∧ (parse "X\u0130").matches? "X\u0130" = some [] ∧
      (parse "X\u0130").matches? "xi\u0307" = none := by
  decide +kernel

end Pattern

end SpokenIntent
