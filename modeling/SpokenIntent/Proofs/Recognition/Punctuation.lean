import SpokenIntent.Proofs.Recognition.Cuts
import SpokenIntent.Proofs.Text.Words

/-!
Periods at the ends of words. To what is said a period makes no difference, and none to the plain words of a
pattern. A placeholder is one only as long as its braces stand at the ends of its word: with a period after
them it becomes a plain word, or nothing at all, and there is always an utterance that tells the two apart.
-/

namespace SpokenIntent

namespace Text

/-! ### A period after a word -/

/-- `cs` with a period right after its word number `i`, if it has so many. -/
def periodAfter : Nat → List Char → List Char
  | _, [] => []
  | i, c :: rest =>
    if isBlank c then c :: periodAfter i rest
    else if rest.head?.all isBlank then
      if i = 0 then c :: '.' :: rest else c :: periodAfter (i - 1) rest
    else c :: periodAfter i rest

/-- The text with a period at the end of its word number `i`, counted from zero. -/
def withPeriod (i : Nat) (s : String) : String := String.ofList (periodAfter i s.toList)

theorem periodAfter_append {w : List Char} (whole : Whole w) (some : w ≠ []) (rest : List Char)
    (ends : rest.head?.all isBlank = true) :
    periodAfter 0 (w ++ rest) = w ++ '.' :: rest ∧
      ∀ i, periodAfter (i + 1) (w ++ rest) = w ++ periodAfter i rest := by
  induction w with
  | nil => exact absurd rfl some
  | cons c more ih =>
      have solid : isBlank c = false := whole c List.mem_cons_self
      cases more with
      | nil => simp [periodAfter, solid, ends]
      | cons d more =>
          have joined : isBlank d = false := whole d (by simp)
          have tail := ih (fun e member => whole e (List.mem_cons_of_mem _ member)) (by simp)
          simp only [List.cons_append] at tail
          rw [List.cons_append, List.cons_append, periodAfter]
          constructor
          · simp [solid, joined, tail.1]
          · intro i
            rw [periodAfter]
            simp [solid, joined, tail.2 i]

theorem splitBlank_periodAfter (i : Nat) (cs : List Char) :
    splitBlank (periodAfter i cs) = (splitBlank cs).modify i (· ++ ['.']) := by
  have ended {w : List Char} (whole : Whole w) : splitBlank (w ++ ['.']) = [w ++ ['.']] := by
    refine splitBlank_whole (fun c member => ?_) (by simp)
    rcases List.mem_append.mp member with inside | last
    · exact whole c inside
    · rw [List.mem_singleton.mp last]
      decide
  induction cs using blank_induction generalizing i with
  | word w whole =>
      by_cases empty : w = []
      · cases i <;> simp [empty, periodAfter]
      · have marked := periodAfter_append whole empty [] rfl
        rw [List.append_nil] at marked
        rw [splitBlank_whole whole empty]
        cases i with
        | zero =>
            rw [marked.1, ended whole]
            rfl
        | succ i =>
            rw [marked.2, periodAfter, List.append_nil, splitBlank_whole whole empty]
            simp
  | parted w b rest whole blank ih =>
      by_cases empty : w = []
      · rw [empty, List.nil_append, periodAfter, if_pos blank, splitBlank_skip blank, splitBlank_skip blank, ih]
      · have marked := periodAfter_append whole empty (b :: rest) (by simpa using blank)
        rw [splitBlank_break blank, splitBlank_whole whole empty]
        cases i with
        | zero =>
            rw [marked.1, List.append_cons, splitBlank_break blank, ended whole]
            rfl
        | succ i =>
            rw [marked.2, periodAfter, if_pos blank, splitBlank_break blank, splitBlank_whole whole empty, ih]
            rfl

theorem words_withPeriod (i : Nat) (s : String) : words (withPeriod i s) = (words s).modify i (· ++ ".") := by
  have period (w : List Char) : String.ofList (w ++ ['.']) = String.ofList w ++ "." := by
    rw [String.ofList_append]
  rw [words, withPeriod, String.toList_ofList, splitBlank_periodAfter, words]
  generalize splitBlank s.toList = ws
  induction ws generalizing i with
  | nil => cases i <;> rfl
  | cons w ws ih =>
      cases i with
      | zero => simp [List.modify_cons, period]
      | succ i => simpa [List.modify_cons] using ih i

end Text

/-! ### Words with a period -/

theorem trimEdges_period (word : String) : trimEdges (word ++ ".") = trimEdges word := by
  have none : ∀ c ∈ ([] : List Char), isEdge c = true := by simp
  have period : isEdge '.' = true := rfl
  have dropped : Text.dropEnds isEdge (word.toList ++ ['.']) = Text.dropEnds isEdge word.toList :=
    Text.dropEnds_surplus none (by simpa using period)
  rw [trimEdges, String.toList_append, show ".".toList = ['.'] from rfl, dropped, trimEdges]

theorem normalizeWord_period (word : String) : normalizeWord (word ++ ".") = normalizeWord word := by
  rw [normalizeWord, trimEdges_period, normalizeWord]

theorem placeholder?_period (token : String) : placeholder? (token ++ ".") = none := by
  rw [placeholder?, String.toList_append]
  cases token.toList with
  | nil => rfl
  | cons c rest =>
      simp only [List.cons_append]
      split
      · next same =>
        cases same
        simp
      · rfl

/-- With a period every word of a pattern is a plain one. -/
theorem Segment.ofToken?_period (token : String) :
    ofToken? (token ++ ".") =
      if (normalizeWord token).isEmpty then none else some (.word (normalizeWord token)) := by
  rw [ofToken?, placeholder?_period, normalizeWord_period]

theorem Segment.ofToken?_plain {token : String} (plain : placeholder? token = none) :
    ofToken? (token ++ ".") = ofToken? token := by
  rw [ofToken?_period, ofToken?, plain]

/-- A word may be changed where the change is not seen. -/
theorem map_modify_unseen {α β : Type} {f : α → α} {seen : α → β} {l : List α} {i : Nat}
    (unseen : ∀ a ∈ l[i]?, seen (f a) = seen a) : (l.modify i f).map seen = l.map seen := by
  by_cases inside : i < l.length
  · rcases List.exists_of_modify f inside with ⟨front, a, back, rfl, rfl, modified⟩
    rw [modified]
    simp [unseen a (by simp)]
  · rw [List.modify_eq_self (Nat.le_of_not_lt inside)]

theorem spokenWords_withPeriod (i : Nat) (utterance : String) :
    spokenWords (Text.withPeriod i utterance) = spokenWords utterance := by
  have same (word : String) : Spoken.ofWord (word ++ ".") = Spoken.ofWord word := by
    rw [Spoken.ofWord, normalizeWord_period, trimEdges_period, Spoken.ofWord]
  change ((Text.words _).map Spoken.ofWord).filter _ = ((Text.words _).map Spoken.ofWord).filter _
  rw [Text.words_withPeriod, map_modify_unseen fun word _ => same word]

/-! ### Utterances with one word for each segment -/

/-- A word that an utterance made of it and others is heard with. -/
structure Heard (word : String) : Prop where
  whole : Text.Whole word.toList
  some : normalizeWord word ≠ ""

theorem heardWords_unwords {ws : List String} (heard : ∀ w ∈ ws, Heard w) : heardWords (Text.unwords ws) = ws := by
  have words : Text.words (Text.unwords ws) = ws := by
    apply Text.words_unwords
    intro w member
    refine ⟨?_, (heard w member).whole⟩
    rintro rfl
    exact (heard "" member).some rfl
  rw [heardWords, words]
  exact List.filter_eq_self.mpr fun w member => by simpa using (heard w member).some

/-- A letter in lower case on its own. -/
theorem heard_letter {c : Char} (settled : Text.Settled c) (letter : isEdge c = false)
    (solid : Text.isBlank c = false) :
    Heard (String.singleton c) ∧ normalizeWord (String.singleton c) = String.singleton c := by
  have trimmed : trimEdges (String.singleton c) = String.singleton c := by
    rw [trimEdges_eq_self, String.toList_singleton]
    exact ⟨by simpa using letter, by simpa using letter⟩
  have normal : normalizeWord (String.singleton c) = String.singleton c := by
    rw [normalizeWord, trimmed, Text.lower_eq_self]
    simpa using settled
  refine ⟨⟨by simpa [Text.Whole] using solid, ?_⟩, normal⟩
  rw [normal]
  simp

/-- Whatever one word is to be avoided, there is another. -/
theorem heard_otherwise (normal : String) : ∃ word, Heard word ∧ normalizeWord word ≠ normal := by
  have a := heard_letter (c := 'a') ⟨by decide, rfl⟩ rfl rfl
  have b := heard_letter (c := 'b') ⟨by decide, rfl⟩ rfl rfl
  by_cases same : String.singleton 'a' = normal
  · refine ⟨_, b.1, ?_⟩
    rw [b.2, ← same]
    decide
  · refine ⟨_, a.1, ?_⟩
    rwa [a.2]

/-- A segment that some one word will do for. -/
def Segment.Sayable (segment : Segment) : Prop := ∃ word, Heard word ∧ segment.Takes [word]

theorem Segment.ofToken?_sayable {token : String} {segment : Segment} (whole : Text.Whole token.toList)
    (found : ofToken? token = some segment) : segment.Sayable := by
  rw [ofToken?] at found
  split at found
  · cases found
    rcases heard_otherwise "" with ⟨word, heard, -⟩
    exact ⟨word, heard, .entity (by simp)⟩
  · simp only [Option.ite_none_left_eq_some, Option.some.injEq] at found
    rcases found with ⟨filled, rfl⟩
    exact ⟨token, ⟨whole, by simpa using filled⟩, .word rfl⟩

/-- An utterance of as many words as there are segments, each of which will do for its own. -/
structure Says (segments : List Segment) (ws : List String) : Prop where
  heard : ∀ w ∈ ws, Heard w
  each : List.Forall₂ (fun segment w => segment.Takes [w]) segments ws

theorem says_sayable {segments : List Segment} (sayable : ∀ s ∈ segments, s.Sayable) : ∃ ws, Says segments ws := by
  induction segments with
  | nil => exact ⟨[], by simp, .nil⟩
  | cons segment segments ih =>
      rcases sayable segment List.mem_cons_self with ⟨w, heard, takes⟩
      rcases ih fun s member => sayable s (List.mem_cons_of_mem _ member) with ⟨ws, more⟩
      exact ⟨w :: ws, List.forall_mem_cons.mpr ⟨heard, more.heard⟩, .cons takes more.each⟩

namespace Pattern

/-- Said word for word, an utterance is matched exactly by what has a segment for each of its words. -/
theorem matches?_said {p : Pattern} {ws : List String} (heard : ∀ w ∈ ws, Heard w)
    (same : ws.length = p.segments.length) (some : p.segments ≠ []) :
    (p.matches? (Text.unwords ws)).isSome ↔
      List.Forall₂ (fun segment w => segment.Takes [w]) p.segments ws := by
  rw [isSome_matches?, heardWords_unwords heard]
  constructor
  · rintro ⟨-, -, blocks, cut⟩
    exact cut.each same
  · intro each
    refine ⟨some, ?_, _, Cut.of_each each⟩
    rintro rfl
    exact some (List.forall₂_nil_right_iff.mp each)

theorem matches?_short {p : Pattern} {ws : List String} (heard : ∀ w ∈ ws, Heard w)
    (short : ws.length < p.segments.length) : p.matches? (Text.unwords ws) = none := by
  rw [← Option.not_isSome_iff_eq_none, isSome_matches?, heardWords_unwords heard]
  rintro ⟨-, -, blocks, cut⟩
  exact absurd cut.length_le (Nat.not_le.mpr short)

theorem matches?_congr {p q : Pattern} (same : q.segments = p.segments) (utterance : String) :
    q.matches? utterance = p.matches? utterance := by
  rw [matches?, same, matches?]

/-! ### A placeholder lost -/

section Apart
variable {p q : Pattern} {before after : List Segment} {name : String}

/-- A plain word in the place of a placeholder does not match what is another word there. -/
theorem apart_of_word (sayable : ∀ s ∈ before ++ after, s.Sayable)
    (here : p.segments = before ++ .entity name :: after) {normal : String}
    (there : q.segments = before ++ .word normal :: after) :
    ∃ utterance, (p.matches? utterance).isSome ∧ q.matches? utterance = none := by
  rcases says_sayable fun s member => sayable s (List.mem_append_left _ member) with ⟨early, first⟩
  rcases says_sayable fun s member => sayable s (List.mem_append_right _ member) with ⟨late, last⟩
  rcases heard_otherwise normal with ⟨word, heard, other⟩
  have all : ∀ w ∈ early ++ word :: late, Heard w :=
    List.forall_mem_append.mpr ⟨first.heard, List.forall_mem_cons.mpr ⟨heard, last.heard⟩⟩
  have counted : (early ++ word :: late).length = (before ++ .entity name :: after).length := by
    simp [first.each.length_eq, last.each.length_eq]
  refine ⟨Text.unwords (early ++ word :: late), ?_, ?_⟩
  · rw [matches?_said all (by rw [here, counted]) (by simp [here]), here]
    exact List.rel_append first.each (.cons (.entity (by simp)) last.each)
  · rw [← Option.not_isSome_iff_eq_none, matches?_said all (by simpa [there] using counted) (by simp [there]), there]
    intro each
    have tail := List.forall₂_drop_append _ _ _ each
    rw [← first.each.length_eq, List.drop_left] at tail
    cases tail with
    | cons takes _ => exact other (Segment.takes_word.mp takes)

/-- With nothing in its place there is one word less to be said. -/
theorem apart_of_none (sayable : ∀ s ∈ before ++ after, s.Sayable)
    (here : p.segments = before ++ .entity name :: after) (there : q.segments = before ++ after) :
    ∃ utterance, (q.matches? utterance).isSome ≠ (p.matches? utterance).isSome := by
  by_cases lone : before ++ after = []
  · -- nothing is matched without a segment, and one word at least by a placeholder
    rcases heard_otherwise "" with ⟨word, heard, -⟩
    rcases List.append_eq_nil_iff.mp lone with ⟨rfl, rfl⟩
    refine ⟨Text.unwords [word], ?_⟩
    have matched : (p.matches? (Text.unwords [word])).isSome := by
      rw [matches?_said (by simpa using heard) (by simp [here]) (by simp [here]), here]
      exact .cons (.entity (by simp)) .nil
    rw [matched, matches?, there]
    simp
  · rcases says_sayable sayable with ⟨ws, said⟩
    have counted := said.each.length_eq
    refine ⟨Text.unwords ws, ?_⟩
    have matched : (q.matches? (Text.unwords ws)).isSome := by
      rw [matches?_said said.heard (by rw [there, counted]) (by rwa [there]), there]
      exact said.each
    rw [matched, matches?_short said.heard (by simp [here, ← counted])]
    simp

end Apart

/-! ### The tokens of a pattern -/

theorem segments_withPeriod {source : String} {i : Nat}
    (plain : ∀ token ∈ (Text.words source)[i]?, placeholder? token = none) :
    (parse (Text.withPeriod i source)).segments = (parse source).segments := by
  have kept := map_modify_unseen fun token here => Segment.ofToken?_plain (plain token here)
  have joined := congrArg (List.filterMap id) kept
  rw [List.filterMap_map, List.filterMap_map, ← Text.words_withPeriod] at joined
  exact joined

theorem apart_withPeriod {source token name : String} {i : Nat} (here : (Text.words source)[i]? = some token)
    (written : placeholder? token = some name) :
    ∃ utterance, ((parse (Text.withPeriod i source)).matches? utterance).isSome ≠
      ((parse source).matches? utterance).isSome := by
  rcases List.exists_of_modify (· ++ ".") (List.getElem?_eq_some_iff.mp here).1 with
    ⟨front, token', back, found, rfl, changed⟩
  obtain rfl : token = token' := by simpa [found] using here.symm
  have named : (parse source).segments =
      front.filterMap Segment.ofToken? ++ .entity name :: back.filterMap Segment.ofToken? := by
    simp only [parse, found, List.filterMap_append, List.filterMap_cons, Segment.ofToken?, written]
  have pointed : (parse (Text.withPeriod front.length source)).segments =
      front.filterMap Segment.ofToken? ++ ((token ++ ".") :: back).filterMap Segment.ofToken? := by
    rw [parse, Text.words_withPeriod, changed, List.filterMap_append]
  rw [List.filterMap_cons, Segment.ofToken?_period] at pointed
  have sayable : ∀ s ∈ front.filterMap Segment.ofToken? ++ back.filterMap Segment.ofToken?, s.Sayable := by
    intro s member
    rw [← List.filterMap_append, List.mem_filterMap] at member
    rcases member with ⟨other, outside, seen⟩
    have inside : other ∈ Text.words source := by
      rw [found, List.mem_append, List.mem_cons]
      exact (List.mem_append.mp outside).imp_right .inr
    exact Segment.ofToken?_sayable (Text.words_solid source other inside).2 seen
  -- what is left of the token is a word, or it is nothing
  by_cases void : (normalizeWord token).isEmpty
  · rw [if_pos void] at pointed
    exact apart_of_none sayable named pointed
  · rw [if_neg void] at pointed
    rcases apart_of_word sayable named pointed with ⟨utterance, matched, missed⟩
    refine ⟨utterance, ?_⟩
    rw [matched, missed]
    simp

/-- To what is said a period at the end of a word makes no difference. To a pattern it makes none exactly if it
does not stand after a placeholder; and where it makes one, there is an utterance that is matched with it, or
without it, only. -/
theorem matches?_withPeriod (source : String) (i : Nat) :
    (∀ utterance, (parse source).matches? (Text.withPeriod i utterance) = (parse source).matches? utterance) ∧
    ((∀ utterance, (parse (Text.withPeriod i source)).matches? utterance = (parse source).matches? utterance) ↔
      ∀ token ∈ (Text.words source)[i]?, placeholder? token = none) ∧
    ((∀ utterance, ((parse (Text.withPeriod i source)).matches? utterance).isSome =
        ((parse source).matches? utterance).isSome) ↔
      ∀ token ∈ (Text.words source)[i]?, placeholder? token = none) := by
  have plain (same : ∀ utterance, ((parse (Text.withPeriod i source)).matches? utterance).isSome =
      ((parse source).matches? utterance).isSome) : ∀ token ∈ (Text.words source)[i]?, placeholder? token = none := by
    intro token here
    by_contra written
    rcases Option.ne_none_iff_exists'.mp written with ⟨name, written⟩
    rcases apart_withPeriod here written with ⟨utterance, apart⟩
    exact apart (same utterance)
  refine ⟨?_, ⟨?_, ?_⟩, plain, ?_⟩
  · intro utterance
    rw [matches?, spokenWords_withPeriod, matches?]
  · intro same
    apply plain
    intro utterance
    rw [same]
  · intro bare
    exact matches?_congr (segments_withPeriod bare)
  · intro bare utterance
    rw [matches?_congr (segments_withPeriod bare)]

/-- A sentence that ends in a placeholder, with a full stop and without. -/
theorem closed_placeholder_unmatched :
    Text.withPeriod 3 "Go to line \x7blineNumber\x7d" = "Go to line \x7blineNumber\x7d." ∧
    (parse "Go to line \x7blineNumber\x7d").matches? "go to line 12" = some [("lineNumber", "12")] ∧
    (parse "Go to line \x7blineNumber\x7d.").matches? "go to line 12" = none := by
  decide +kernel

end Pattern

end SpokenIntent
