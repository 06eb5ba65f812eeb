import SpokenIntent.Proofs.Recognition.Registrations

/-!
What phrase hints do to an utterance. Each word is kept or gives way to the first hint that stands for it. So of the
hints only those count that have a space and are the first of their form: an engine that knows no others makes the
same of every utterance, also where none is left and the utterance is not looked at word by word.
-/

namespace SpokenIntent

namespace Vocabulary

/-! ### Hints that count -/

/-- The hints that count: of those with a space the first of each form, which is that of their words run together. -/
def effective : List String → List String
  | [] => []
  | hint :: rest =>
    if hint.toList.contains ' ' then
      hint :: (effective rest).filter fun later => runTogether later != runTogether hint
    else effective rest

/-- A hint with a space, and the first with a space that has its form. -/
def Foremost (hints : List String) (hint : String) : Prop :=
  ∃ before after, hints = before ++ hint :: after ∧ ' ' ∈ hint.toList ∧
    ∀ earlier ∈ before, ' ' ∈ earlier.toList → runTogether earlier ≠ runTogether hint

/-- What the hints that count are among all. -/
structure Selects (hints kept : List String) : Prop where
  sublist : kept.Sublist hints
  foremost : ∀ hint, hint ∈ kept ↔ Foremost hints hint
  distinct : kept.Pairwise fun hint later => runTogether hint ≠ runTogether later

theorem hears_iff {form hint : String} : hears form hint = true ↔ ' ' ∈ hint.toList ∧ runTogether hint = form := by
  rw [hears, Bool.and_eq_true, List.contains_iff_mem, beq_iff_eq]

theorem foremost_cons {first : String} {rest : List String} {hint : String} :
    Foremost (first :: rest) hint ↔
      hint = first ∧ ' ' ∈ first.toList ∨
        Foremost rest hint ∧ (' ' ∈ first.toList → runTogether first ≠ runTogether hint) := by
  constructor
  · rintro ⟨before, after, split, spaced, alone⟩
    cases before with
    | nil =>
        obtain ⟨rfl, rfl⟩ := List.cons.inj split
        exact .inl ⟨rfl, spaced⟩
    | cons earlier more =>
        obtain ⟨rfl, rfl⟩ := List.cons.inj split
        rcases List.forall_mem_cons.mp alone with ⟨here, others⟩
        exact .inr ⟨⟨more, after, rfl, spaced, others⟩, here⟩
  · rintro (⟨rfl, spaced⟩ | ⟨⟨before, after, rfl, spaced, alone⟩, here⟩)
    · exact ⟨[], rest, rfl, spaced, by simp⟩
    · exact ⟨first :: before, after, rfl, spaced, List.forall_mem_cons.mpr ⟨here, alone⟩⟩

theorem mem_effective {hints : List String} {hint : String} : hint ∈ effective hints ↔ Foremost hints hint := by
  induction hints with
  | nil => simp [effective, Foremost]
  | cons first rest ih =>
      rw [effective, foremost_cons]
      by_cases spaced : ' ' ∈ first.toList
      · simp only [List.contains_iff_mem, spaced, ↓reduceIte, List.mem_cons, List.mem_filter, ih, bne_iff_ne, ne_comm,
          and_true, forall_const]
      · simp only [List.contains_iff_mem, spaced, ↓reduceIte, ih, and_false, false_or, false_implies, and_true]

theorem effective_selects (hints : List String) : Selects hints (effective hints) where
  foremost _ := mem_effective
  sublist := by
    induction hints with
    | nil => exact .slnil
    | cons hint rest ih =>
        rw [effective]
        split
        · exact (List.filter_sublist.trans ih).cons_cons hint
        · exact ih.cons hint
  distinct := by
    induction hints with
    | nil => exact .nil
    | cons hint rest ih =>
        rw [effective]
        split
        · refine .cons ?_ (ih.filter _)
          intro later member
          exact (bne_iff_ne.mp (List.mem_filter.mp member).2).symm
        · exact ih

example : effective ["stop", "on line", "o nline", "hello there"] = ["on line", "hello there"] := by decide +kernel

/-- Whatever is heard, the first hint for it is among those that count. -/
theorem find?_effective (form : String) (hints : List String) :
    (effective hints).find? (hears form) = hints.find? (hears form) := by
  induction hints with
  | nil => rfl
  | cons hint rest ih =>
      rw [effective, List.find?_cons]
      by_cases spaced : hint.toList.contains ' '
      · rw [if_pos spaced, List.find?_cons]
        cases heard : hears form hint with
        | true => rfl
        | false =>
            -- what has the form of this hint is not looked for
            have other : runTogether hint ≠ form := by
              intro same
              rw [hears_iff.mpr ⟨List.contains_iff_mem.mp spaced, same⟩] at heard
              cases heard
            have kept (later : String) :
                ((runTogether later != runTogether hint) && hears form later) = hears form later := by
              rw [Bool.and_eq_right_iff_imp]
              intro hearing
              rw [bne_iff_ne, (hears_iff.mp hearing).2]
              exact other.symm
            rw [List.find?_filter, ← ih]
            simp only [Bool.decide_and, Bool.decide_eq_true, kept]
      · rw [if_neg spaced, ih, hears, Bool.eq_false_iff.mpr spaced, Bool.false_and]

/-! ### Words and what is put in their place -/

theorem biasWord_effective (hints : List String) : biasWord (effective hints) = biasWord hints := by
  funext word
  rw [biasWord, find?_effective, ← biasWord]

/-- With no hints a text is left as it is, which for a spaced one is what looking at each word comes to. -/
theorem bias_spaced (hints : List String) (utterance : String) :
    bias hints (Text.spaced utterance) = Text.unwords ((Text.words utterance).map (biasWord hints)) := by
  rw [bias]
  split
  · next none =>
    have unheard : biasWord hints = id := by
      funext word
      rw [List.isEmpty_iff.mp none]
      rfl
    rw [unheard, List.map_id, Text.spaced]
  · rw [Text.words_spaced]

theorem bias_effective (hints : List String) (utterance : String) :
    bias (effective hints) (Text.spaced utterance) = bias hints (Text.spaced utterance) := by
  rw [bias_spaced, bias_spaced, biasWord_effective]

/-- What is said in place of a word: the first of the hints that stand for it, and where none does the word. -/
inductive Piece (hints : List String) (word : String) : String → Prop where
  | hinted {hint : String} (first : Foremost hints hint) (heard : runTogether hint = normalizeWord word) :
      Piece hints word hint
  | said (unheard : ∀ hint ∈ hints, ' ' ∈ hint.toList → runTogether hint ≠ normalizeWord word) : Piece hints word word

theorem biasWord_piece (hints : List String) (word : String) : Piece hints word (biasWord hints word) := by
  rw [biasWord]
  cases found : hints.find? (hears (normalizeWord word)) with
  | none =>
      apply Piece.said
      intro hint member spaced same
      exact List.find?_eq_none.mp found hint member (hears_iff.mpr ⟨spaced, same⟩)
  | some hint =>
      rcases List.find?_eq_some_iff_append.mp found with ⟨hearing, before, after, split, alone⟩
      rcases hears_iff.mp hearing with ⟨spaced, heard⟩
      refine .hinted ⟨before, after, split, spaced, ?_⟩ heard
      intro earlier member spaced same
      have silent := alone earlier member
      rw [hears_iff.mpr ⟨spaced, same.trans heard⟩] at silent
      cases silent

end Vocabulary

namespace Simulator

open Vocabulary

variable {ρ : Type}

/-- An engine with other hints. -/
def withHints (e : Simulator ρ) (hints : List String) : Simulator ρ :=
  { e with vocabulary := { e.vocabulary with phrases := hints } }

theorem answer_congr {e : Simulator ρ} {hints : List String} {utterance : String}
    (same : bias hints (Text.spaced utterance) = bias e.vocabulary.phrases (Text.spaced utterance)) :
    (e.withHints hints).answer utterance = e.answer utterance := by
  simp only [answer, recognize, withHints, same]

/-- What an engine tells of an utterance goes by its words and by the answer. -/
theorem told_congr {e : Simulator ρ} {hints : List String} {utterance : String}
    (same : (e.withHints hints).answer utterance = e.answer utterance) :
    ((e.withHints hints).handle (.speak utterance)).2 = (e.handle (.speak utterance)).2 := by
  rw [answer, answer] at same
  cases session : e.session with
  | none => simp only [handle_eq, react, withHints, session]
  | some id =>
      simp only [handle_eq, react, withHints, session, utteranceEvents_eq] at same ⊢
      rw [← Text.spaced, same]

theorem recognize_text (v : Vocabulary) (utterance : String) :
    (v.recognize utterance).text = bias v.phrases utterance := by
  rw [recognize]
  split <;> rfl

/-- In a session that somebody attends, the last that is told of an utterance is the answer. -/
theorem speak_last {e : Simulator ρ} (active : e.session.isSome = true) {receiver : ρ}
    (connected : e.receiver = some receiver) (utterance : String) :
    (e.handle (.speak utterance)).2.getLast? = some (receiver, .recognized (e.answer utterance)) := by
  rw [speak_told active connected, hypotheses, List.map_append, List.map_singleton, List.getLast?_concat]

/-- Whatever intents there are and whatever is said:
the answer is the last that is told of it in a session that somebody attends;
of the hints only those count that have a space and are the first of their form, and an engine that knows no others
answers the same and tells the same;
where there are none of them, what is said is left as it is, but for its blanks;
and the text of an answer is, with a space between each two, for each word what is said in its place. -/
theorem hints_effective (e : Simulator ρ) (utterance : String) :
    let hints := e.vocabulary.phrases
    let kept := effective hints
    (e.session.isSome = true → ∀ receiver, e.receiver = some receiver →
      (e.handle (.speak utterance)).2.getLast? = some (receiver, .recognized (e.answer utterance))) ∧
    Selects hints kept ∧
    ((e.withHints kept).answer utterance = e.answer utterance ∧
      ((e.withHints kept).handle (.speak utterance)).2 = (e.handle (.speak utterance)).2) ∧
    (kept = [] → (e.answer utterance).text = Text.spaced utterance) ∧
    ∃ pieces, List.Forall₂ (Piece hints) (Text.words utterance) pieces ∧
      bias hints (Text.spaced utterance) = Text.unwords pieces ∧ (e.answer utterance).text = Text.unwords pieces := by
  intro hints kept
  have text : (e.answer utterance).text = bias hints (Text.spaced utterance) := recognize_text _ _
  have same := bias_effective hints utterance
  have answered : (e.withHints kept).answer utterance = e.answer utterance := answer_congr same
  refine ⟨fun active receiver connected => speak_last active connected utterance, effective_selects hints,
    ⟨answered, ?_⟩, ?_, ?_⟩
  · exact told_congr answered
  · intro none
    rw [text, ← same, show effective hints = [] from none]
    rfl
  · refine ⟨(Text.words utterance).map (biasWord hints), ?_, bias_spaced hints utterance,
      text.trans (bias_spaced hints utterance)⟩
    rw [List.forall₂_map_right_iff, List.forall₂_same]
    exact fun word _ => biasWord_piece hints word

end Simulator

end SpokenIntent
