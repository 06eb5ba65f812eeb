import Mathlib.Data.List.Chain
import SpokenIntent.Proofs.Text.Lowercase

/-!
Words, as blanks part them. A blank makes a break: what comes before it and what comes after have nothing to
do with each other, not for words and not for lower case either, since a blank is neither a cased letter nor
passed over in looking for one. So a text is lowered word by word, and which blanks there are between words,
and how many, makes no difference.
-/

namespace SpokenIntent.Text

/-- No blank in it. -/
def Whole (w : List Char) : Prop := ∀ c ∈ w, isBlank c = false

/-! ### Words -/

@[simp] theorem splitBlank_nil : splitBlank [] = [] := rfl

theorem splitBlank_cons (c : Char) (rest : List Char) :
    splitBlank (c :: rest) =
      if isBlank c then splitBlank rest
      else
        match rest with
        | [] => [[c]]
        | d :: _ =>
          if isBlank d then [c] :: splitBlank rest
          else
            match splitBlank rest with
            | [] => [[c]]
            | word :: more => (c :: word) :: more := rfl

theorem splitBlank_ne_nil {c : Char} (solid : isBlank c = false) (rest : List Char) :
    splitBlank (c :: rest) ≠ [] := by
  cases rest with
  | nil => simp [splitBlank_cons, solid]
  | cons d more =>
      rw [splitBlank_cons]
      simp only [solid, Bool.false_eq_true, ↓reduceIte]
      split
      · simp
      · split <;> simp

theorem splitBlank_break {b : Char} (blank : isBlank b = true) (before after : List Char) :
    splitBlank (before ++ b :: after) = splitBlank before ++ splitBlank after := by
  induction before with
  | nil => simp [splitBlank_cons, blank]
  | cons c rest ih =>
      by_cases solid : isBlank c = false
      · cases rest with
        | nil => simp [splitBlank_cons, blank, solid]
        | cons d more =>
            by_cases joined : isBlank d = false
            · have some := splitBlank_ne_nil joined more
              rw [List.cons_append, List.cons_append, splitBlank_cons c, splitBlank_cons c]
              simp only [List.cons_append] at ih
              simp only [solid, joined, ih, Bool.false_eq_true, ↓reduceIte]
              cases words : splitBlank (d :: more) with
              | nil => exact absurd words some
              | cons word others => rfl
            · rw [Bool.not_eq_false] at joined
              rw [List.cons_append, List.cons_append, splitBlank_cons c, splitBlank_cons c]
              simp only [List.cons_append] at ih
              simp [solid, joined, ih]
      · rw [Bool.not_eq_false] at solid
        simpa [splitBlank_cons, solid] using ih

theorem splitBlank_whole {w : List Char} (whole : Whole w) (some : w ≠ []) : splitBlank w = [w] := by
  induction w with
  | nil => exact absurd rfl some
  | cons c rest ih =>
      have solid : isBlank c = false := whole c List.mem_cons_self
      cases rest with
      | nil => simp [splitBlank_cons, solid]
      | cons d more =>
          have joined : isBlank d = false := whole d (by simp)
          have tail := ih (fun e member => whole e (List.mem_cons_of_mem _ member)) (by simp)
          rw [splitBlank_cons]
          simp [solid, joined, tail]

/-- A text is one word or none, or it begins with one, or none, and a break. -/
theorem blank_induction {P : List Char → Prop} (word : ∀ w, Whole w → P w)
    (parted : ∀ w b rest, Whole w → isBlank b = true → P rest → P (w ++ b :: rest)) (cs : List Char) : P cs := by
  induction size : cs.length using Nat.strongRecOn generalizing cs with
  | ind n ih =>
      let w := cs.takeWhile fun c => !isBlank c
      have whole : Whole w := by
        intro c member
        simpa using List.mem_takeWhile_imp member
      have parts : w ++ cs.dropWhile (fun c => !isBlank c) = cs := List.takeWhile_append_dropWhile
      cases left : cs.dropWhile fun c => !isBlank c with
      | nil =>
          rw [left, List.append_nil] at parts
          exact parts ▸ word w whole
      | cons b rest =>
          have blank : isBlank b = true := by
            have not := List.head?_dropWhile_not (fun c => !isBlank c) cs
            rw [left] at not
            simpa using not
          rw [left] at parts
          rw [← parts]
          apply parted w b rest whole blank
          apply ih rest.length _ rest rfl
          rw [← size, ← parts]
          simp
          omega

theorem splitBlank_words (cs : List Char) : ∀ w ∈ splitBlank cs, w ≠ [] ∧ Whole w := by
  induction cs using blank_induction with
  | word w whole =>
      by_cases empty : w = []
      · simp [empty]
      · rw [splitBlank_whole whole empty]
        intro v member
        obtain rfl := List.mem_singleton.mp member
        exact ⟨empty, whole⟩
  | parted w b rest whole blank ih =>
      by_cases empty : w = []
      · rw [splitBlank_break blank, empty]
        simpa using ih
      · rw [splitBlank_break blank, splitBlank_whole whole empty]
        intro v member
        rcases List.mem_cons.mp member with rfl | later
        · exact ⟨empty, whole⟩
        · exact ih v later

theorem splitBlank_skip {b : Char} (blank : isBlank b = true) (rest : List Char) :
    splitBlank (b :: rest) = splitBlank rest :=
  splitBlank_break blank [] rest

theorem splitBlank_blanks {bs : List Char} (blank : ∀ b ∈ bs, isBlank b = true) : splitBlank bs = [] := by
  induction bs with
  | nil => rfl
  | cons b rest ih =>
      rw [splitBlank_skip (blank b List.mem_cons_self)]
      exact ih fun c member => blank c (List.mem_cons_of_mem _ member)

theorem blank_of_splitBlank {cs : List Char} (none : splitBlank cs = []) : ∀ c ∈ cs, isBlank c = true := by
  induction cs using blank_induction with
  | word w whole =>
      by_cases empty : w = []
      · simp [empty]
      · rw [splitBlank_whole whole empty] at none
        cases none
  | parted w b rest whole blank ih =>
      rw [splitBlank_break blank, List.append_eq_nil_iff] at none
      by_cases empty : w = []
      · simpa [empty, blank] using ih none.2
      · rw [splitBlank_whole whole empty] at none
        cases none.1

/-- Blanks at the ends of a text are no part of a word. -/
theorem splitBlank_dropTail (cs : List Char) : splitBlank (dropTail isBlank cs) = splitBlank cs := by
  obtain ⟨tail, parts, blank⟩ := dropTail_append isBlank cs
  cases tail with
  | nil => rw [← parts, List.append_nil]; simp [dropTail_eq_self (dropTail_last isBlank cs)]
  | cons b rest =>
      have none : splitBlank rest = [] := splitBlank_blanks fun c member => blank c (List.mem_cons_of_mem _ member)
      conv_rhs => rw [← parts, splitBlank_break (blank b List.mem_cons_self), none, List.append_nil]

theorem splitBlank_dropWhile (cs : List Char) : splitBlank (cs.dropWhile isBlank) = splitBlank cs := by
  induction cs with
  | nil => rfl
  | cons c rest ih =>
      by_cases blank : isBlank c = true
      · rw [List.dropWhile_cons_of_pos blank, ih, splitBlank_skip blank]
      · rw [List.dropWhile_cons_of_neg blank]

theorem splitBlank_dropEnds (cs : List Char) : splitBlank (dropEnds isBlank cs) = splitBlank cs := by
  rw [dropEnds, splitBlank_dropTail, splitBlank_dropWhile]

/-! ### One space between any two words -/

/-- The words of a text, with one space between any two. -/
def spaced (s : String) : String := unwords (words s)

theorem spaced_toList (s : String) : (spaced s).toList = [' '].intercalate (splitBlank s.toList) := by
  simp [spaced, unwords, words, String.toList_intercalate]

theorem splitBlank_intercalate {ws : List (List Char)} (solid : ∀ w ∈ ws, w ≠ [] ∧ Whole w) :
    splitBlank ([' '].intercalate ws) = ws := by
  induction ws with
  | nil => rfl
  | cons w rest ih =>
      obtain ⟨some, whole⟩ := solid w List.mem_cons_self
      have tail := ih fun v member => solid v (List.mem_cons_of_mem _ member)
      cases rest with
      | nil => rw [List.intercalate_singleton, splitBlank_whole whole some]
      | cons v more =>
          rw [List.intercalate_cons_cons, List.append_assoc, List.singleton_append,
            splitBlank_break (by decide), splitBlank_whole whole some, tail]
          rfl

/-- Words that are put together with single spaces are found again. -/
theorem words_unwords {ws : List String} (solid : ∀ w ∈ ws, w ≠ "" ∧ Whole w.toList) : words (unwords ws) = ws := by
  have cut : splitBlank ([' '].intercalate (ws.map String.toList)) = ws.map String.toList := by
    apply splitBlank_intercalate
    intro cs member
    rcases List.mem_map.mp member with ⟨w, here, rfl⟩
    exact ⟨String.toList_eq_nil_iff.not.mpr (solid w here).1, (solid w here).2⟩
  rw [words, unwords, String.toList_intercalate, show " ".toList = [' '] from rfl, cut]
  simp

theorem words_solid (s : String) : ∀ w ∈ words s, w ≠ "" ∧ Whole w.toList := by
  intro w member
  rcases List.mem_map.mp member with ⟨cs, here, rfl⟩
  rw [String.toList_ofList, ne_eq, String.ofList_eq_empty_iff]
  exact splitBlank_words s.toList cs here

theorem words_spaced (s : String) : words (spaced s) = words s :=
  words_unwords (words_solid s)

@[simp] theorem spaced_spaced (s : String) : spaced (spaced s) = spaced s := by
  rw [spaced, words_spaced, spaced]

/-- The only blanks are single spaces inside. -/
structure Spaced (cs : List Char) : Prop where
  bare : Bare isBlank cs
  single : cs.IsChain fun a b => isBlank a = true → a = ' ' ∧ isBlank b = false

theorem whole_chain {w : List Char} (whole : Whole w) :
    w.IsChain fun a b => isBlank a = true → a = ' ' ∧ isBlank b = false := by
  induction w with
  | nil => exact .nil
  | cons c rest ih =>
      have tail := ih fun d member => whole d (List.mem_cons_of_mem _ member)
      cases rest with
      | nil => exact .singleton c
      | cons d more =>
          apply List.isChain_cons_cons.mpr
          constructor
          · intro blank
            rw [whole c List.mem_cons_self] at blank
            cases blank
          · exact tail

theorem whole_bare {w : List Char} (whole : Whole w) : Bare isBlank w where
  head c first := whole c (List.mem_of_mem_head? first)
  last c last := whole c (List.mem_of_mem_getLast? last)

/-- A word before a text that is spaced, with a space in between. -/
theorem Spaced.cons {w cs : List Char} (whole : Whole w) (some : w ≠ []) (more : cs ≠ []) (spaced : Spaced cs) :
    Spaced (w ++ ' ' :: cs) := by
  constructor
  · constructor
    · intro c first
      rw [List.head?_append_of_ne_nil _ some] at first
      exact (whole_bare whole).head c first
    · intro c last
      rw [List.getLast?_append_of_ne_nil _ (by simp), List.getLast?_cons_of_ne_nil more] at last
      exact spaced.bare.last c last
  · apply List.isChain_append.mpr
    refine ⟨whole_chain whole, ?_, ?_⟩
    · cases cs with
      | nil => exact absurd rfl more
      | cons d rest => exact List.isChain_cons_cons.mpr ⟨fun _ => ⟨rfl, spaced.bare.head d rfl⟩, spaced.single⟩
    · intro c last _ _ blank
      rw [(whole_bare whole).last c last] at blank
      cases blank

theorem Spaced.uncons {w rest : List Char} {b : Char} (blank : isBlank b = true) (spaced : Spaced (w ++ b :: rest)) :
    w ≠ [] ∧ b = ' ' ∧ rest ≠ [] ∧ Spaced rest := by
  have here : w ≠ [] := by
    rintro rfl
    have solid := spaced.bare.head b rfl
    rw [blank] at solid
    cases solid
  obtain ⟨-, chain, -⟩ := List.isChain_append.mp spaced.single
  cases rest with
  | nil =>
      have solid := spaced.bare.last b (by simp)
      rw [blank] at solid
      cases solid
  | cons d more =>
      obtain ⟨next, tail⟩ := List.isChain_cons_cons.mp chain
      refine ⟨here, (next blank).1, by simp, ⟨?_, ?_⟩, tail⟩
      · rintro c ⟨⟩
        exact (next blank).2
      · intro c last
        apply spaced.bare.last c
        rw [List.getLast?_append_of_ne_nil _ (by simp), List.getLast?_cons_of_ne_nil (by simp)]
        exact last

theorem intercalate_spaced {ws : List (List Char)} (solid : ∀ w ∈ ws, w ≠ [] ∧ Whole w) :
    Spaced ([' '].intercalate ws) := by
  induction ws with
  | nil => exact ⟨⟨by simp, by simp⟩, .nil⟩
  | cons w rest ih =>
      obtain ⟨some, whole⟩ := solid w List.mem_cons_self
      have tail := ih fun v member => solid v (List.mem_cons_of_mem _ member)
      cases rest with
      | nil =>
          rw [List.intercalate_singleton]
          exact ⟨whole_bare whole, whole_chain whole⟩
      | cons v more =>
          have nonempty : [' '].intercalate (v :: more) ≠ [] := by
            intro empty
            have none := splitBlank_intercalate fun u member => solid u (List.mem_cons_of_mem w member)
            rw [empty] at none
            cases none
          rw [List.intercalate_cons_cons, List.append_assoc, List.singleton_append]
          exact tail.cons whole some nonempty

theorem intercalate_splitBlank {cs : List Char} (spaced : Spaced cs) : [' '].intercalate (splitBlank cs) = cs := by
  induction cs using blank_induction with
  | word w whole =>
      by_cases empty : w = []
      · simp [empty]
      · rw [splitBlank_whole whole empty, List.intercalate_singleton]
  | parted w b rest whole blank ih =>
      obtain ⟨here, rfl, more, tail⟩ := spaced.uncons blank
      have kept := ih tail
      rw [splitBlank_break blank, splitBlank_whole whole here]
      cases words : splitBlank rest with
      | nil =>
          rw [words] at kept
          exact absurd kept.symm more
      | cons v others =>
          rw [words] at kept
          rw [List.singleton_append, List.intercalate_cons_cons, kept]
          simp

/-! ### Lower case, word by word -/

theorem blanks_plain : (CaseRun.blankRanges.all fun r =>
    (List.range (r.2 + 1 - r.1)).all fun k =>
      let b := Char.ofNat (r.1 + k)
      !isCased b && !isCaseIgnorable b && b != '\u03A3' && lowerAlone b == [b]) = true := by
  decide +kernel

/-- A blank is its own lower case. It is no cased letter, and none is looked for beyond it. -/
theorem blank_plain {b : Char} (blank : isBlank b = true) :
    Settled b ∧ isCased b = false ∧ isCaseIgnorable b = false := by
  obtain ⟨r, known, low, high⟩ := (isBlank_iff b).mp blank
  have plain := List.all_eq_true.mp (List.all_eq_true.mp blanks_plain r known) (b.toNat - r.1)
    (List.mem_range.mpr (by omega))
  rw [show r.1 + (b.toNat - r.1) = b.toNat by omega, Char.ofNat_toNat] at plain
  simp only [Bool.and_eq_true, Bool.not_eq_eq_eq_not, Bool.not_true, bne_iff_ne, ne_eq, beq_iff_eq] at plain
  exact ⟨⟨plain.1.2, plain.2⟩, plain.1.1.1, plain.1.1.2⟩

theorem meetsCased_blank {b : Char} (blank : isBlank b = true) (far : List Char) : meetsCased (b :: far) = false := by
  obtain ⟨-, uncased, heeded⟩ := blank_plain blank
  simp [meetsCased, heeded, uncased]

theorem lowerAfter_break {b : Char} (blank : isBlank b = true) (before cs after : List Char) :
    lowerAfter before (cs ++ b :: after) = lowerAfter before cs ++ b :: lowerAfter [] after := by
  obtain ⟨settled, -, -⟩ := blank_plain blank
  have beyond := lowerAfter_beyond (meetsCased_blank blank (cs.reverse ++ before)) [] after
  rw [List.nil_append] at beyond
  rw [lowerAfter_append (meetsCased_blank blank after), lowerAfter_cons, beyond]
  simp [lowerBetween, settled.notSigma, settled.fixed]

theorem lowerAfter_whole {w : List Char} (whole : Whole w) (before : List Char) : Whole (lowerAfter before w) := by
  induction w generalizing before with
  | nil => exact whole
  | cons c rest ih =>
      intro d member
      rw [lowerAfter_cons, List.mem_append] at member
      rcases member with here | later
      · rw [((lowerBetween_lowers before c rest).2 d here).blank]
        exact whole c List.mem_cons_self
      · exact ih (fun e member => whole e (List.mem_cons_of_mem _ member)) _ d later

theorem splitBlank_lower (cs : List Char) :
    splitBlank (lowerAfter [] cs) = (splitBlank cs).map (lowerAfter []) := by
  induction cs using blank_induction with
  | word w whole =>
      by_cases empty : w = []
      · simp [empty, lowerAfter]
      · rw [splitBlank_whole whole empty, splitBlank_whole (lowerAfter_whole whole []) (lowerAfter_eq_nil.not.mpr empty)]
        rfl
  | parted w b rest whole blank ih =>
      rw [lowerAfter_break blank, splitBlank_break blank, splitBlank_break blank, ih, List.map_append]
      by_cases empty : w = []
      · simp [empty, lowerAfter]
      · rw [splitBlank_whole whole empty, splitBlank_whole (lowerAfter_whole whole []) (lowerAfter_eq_nil.not.mpr empty)]
        rfl

theorem lowerAfter_intercalate (ws : List (List Char)) :
    lowerAfter [] ([' '].intercalate ws) = [' '].intercalate (ws.map (lowerAfter [])) := by
  induction ws with
  | nil => rfl
  | cons w rest ih =>
      cases rest with
      | nil => rw [List.intercalate_singleton, List.map_singleton, List.intercalate_singleton]
      | cons v more =>
          rw [List.intercalate_cons_cons, List.append_assoc, List.singleton_append, lowerAfter_break (by decide), ih]
          simp only [List.map_cons, List.intercalate_cons_cons, List.append_assoc, List.singleton_append]

end SpokenIntent.Text
