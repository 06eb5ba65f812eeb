import SpokenIntent.Proofs.Text.Digits
import SpokenIntent.Proofs.Text.Lowercase
import SpokenIntent.Vocabulary.Utterance

/-!
Numbers as they are spoken. One of ten words by itself is a number, in whatever case and with whatever blanks
around it. Any other text says what its first run of digits denotes, if that is in bounds, and nothing if it is
not. No text is both: digits outlast trimming and lowering, and the words have none.
-/

namespace SpokenIntent

open Text

/-! ### Words -/

section Words
variable {text : String} {n : Nat}

theorem wordToNumber?_eq_some : wordToNumber? text = some n ↔ numberWords[n]? = some (lower (trim text)) := by
  have once : numberWords.Nodup := by decide
  simp only [wordToNumber?, Option.ite_none_right_eq_some, Option.some.injEq]
  constructor
  · rintro ⟨known, rfl⟩
    exact List.getElem?_idxOf (List.idxOf_lt_length_iff.mp known)
  · intro named
    obtain ⟨below, same⟩ := List.getElem?_eq_some_iff.mp named
    rw [← same, once.idxOf_getElem]
    exact ⟨below, rfl⟩

theorem wordToNumber?_eq_none : wordToNumber? text = none ↔ lower (trim text) ∉ numberWords := by
  simp [wordToNumber?, List.idxOf_lt_length_iff]

end Words

/-! ### Digits and words -/

section Digits
variable {c : Char} {cs : List Char}

theorem digits_settle : ∀ d < 10, isBlank d.digitChar = false ∧ d.digitChar ≠ '\u03A3' ∧
    lowerAlone d.digitChar = [d.digitChar] := by
  decide

theorem digit_trimmed (digit : isDigit c = true) (member : c ∈ cs) : c ∈ dropEnds isBlank cs := by
  obtain ⟨d, small, rfl⟩ := exists_digitChar digit
  have solid := (digits_settle d small).1
  obtain ⟨before, after, parts, early, late⟩ := dropEnds_parts isBlank cs
  rw [← parts, List.mem_append, List.mem_append] at member
  rcases member with first | kept | last
  · simp [early _ first] at solid
  · exact kept
  · simp [late _ last] at solid

theorem digit_lowered (digit : isDigit c = true) (before : List Char) (member : c ∈ cs) :
    c ∈ lowerAfter before cs := by
  induction cs generalizing before with
  | nil => cases member
  | cons e after ih =>
      rw [lowerAfter_cons, List.mem_append]
      rcases List.mem_cons.mp member with rfl | later
      · obtain ⟨d, small, rfl⟩ := exists_digitChar digit
        obtain ⟨-, notSigma, same⟩ := digits_settle d small
        left
        simp [lowerBetween, notSigma, same]
      · exact .inr (ih _ later)

theorem numberWords_digitless : ∀ word ∈ numberWords, ∀ c ∈ word.toList, isDigit c = false := by
  have digitless : ∀ word ∈ numberWords, word.toList.any isDigit = false := by decide
  intro word member
  exact digitless_iff.mpr (digitless word member)

/-- A text with a digit in it is none of the words. -/
theorem not_word_of_digit {text : String} (digit : isDigit c = true) (member : c ∈ text.toList) :
    lower (trim text) ∉ numberWords := by
  intro word
  have kept : c ∈ (lower (trim text)).toList := by
    rw [lower, trim, String.toList_ofList, String.toList_ofList]
    exact digit_lowered digit [] (digit_trimmed digit member)
  have none := numberWords_digitless _ word c kept
  simp [digit] at none

end Digits

/-! ### The first run -/

/-- The first run of digits: no digit comes before it, and it goes on as far as there are digits. -/
def FirstRun (cs run : List Char) : Prop :=
  ∃ before after, cs = before ++ (run ++ after) ∧ (∀ c ∈ before, isDigit c = false) ∧
    (run ≠ [] ∧ ∀ c ∈ run, isDigit c = true) ∧ ∀ c ∈ after.head?, isDigit c = false

section FirstRun
variable {cs run : List Char}

theorem FirstRun.eq (first : FirstRun cs run) : firstDigits cs = run := by
  obtain ⟨before, after, rfl, early, ⟨some, digits⟩, ends⟩ := first
  have begins : ∀ c ∈ (run ++ after).head?, (!isDigit c) = false := by
    intro c head
    rw [List.head?_append_of_ne_nil _ some] at head
    simp [digits c (List.mem_of_mem_head? head)]
  have stops : after.takeWhile isDigit = [] := by
    cases after with
    | nil => rfl
    | cons c rest => simp [ends c rfl]
  rw [firstDigits, List.dropWhile_append_of_pos (by simpa using early), dropWhile_eq_self begins,
    List.takeWhile_append_of_pos digits, stops, List.append_nil]

theorem firstRun_firstDigits (some : firstDigits cs ≠ []) : FirstRun cs (firstDigits cs) := by
  refine ⟨cs.takeWhile fun c => !isDigit c, (cs.dropWhile fun c => !isDigit c).dropWhile isDigit, ?_, ?_,
    ⟨some, ?_⟩, dropWhile_head isDigit _⟩
  · rw [firstDigits, List.takeWhile_append_dropWhile, List.takeWhile_append_dropWhile]
  · intro c member
    simpa using List.mem_takeWhile_imp member
  · intro c member
    exact List.mem_takeWhile_imp member

theorem FirstRun.exists_digit (first : FirstRun cs run) : ∃ c ∈ cs, isDigit c = true := by
  obtain ⟨before, after, rfl, -, ⟨some, digits⟩, -⟩ := first
  obtain ⟨c, member⟩ := List.exists_mem_of_ne_nil run some
  exact ⟨c, by simp [member], digits c member⟩

theorem FirstRun.not_word {text : String} (first : FirstRun text.toList run) :
    lower (trim text) ∉ numberWords := by
  obtain ⟨c, member, digit⟩ := first.exists_digit
  exact not_word_of_digit digit member

theorem FirstRun.of_decimal (n : Nat) {before after : List Char} (early : ∀ c ∈ before, isDigit c = false)
    (ends : ∀ c ∈ after.head?, isDigit c = false) :
    FirstRun (before ++ (Nat.toDigits 10 n ++ after)) (Nat.toDigits 10 n) :=
  have denotes := toDigits_denotes n
  ⟨before, after, rfl, early, ⟨denotes.ne_nil, denotes.digits⟩, ends⟩

end FirstRun

/-! ### Numbers -/

section Numbers
variable {text : String} {n : Nat}

/-- What a text says that is none of the words. -/
theorem spokenNumber?_wordless (wordless : lower (trim text) ∉ numberWords) :
    spokenNumber? text = some n ↔ ∃ run, FirstRun text.toList run ∧ Denotes run n ∧ n < UInt32.size := by
  have bound : numberBound = UInt32.size := rfl
  rw [spokenNumber?, wordToNumber?_eq_none.mpr wordless]
  simp only [readBelow_eq_some, bound]
  constructor
  · rintro ⟨denotes, below⟩
    exact ⟨_, firstRun_firstDigits denotes.ne_nil, denotes, below⟩
  · rintro ⟨run, first, denotes, below⟩
    rw [first.eq]
    exact ⟨denotes, below⟩

theorem spokenNumber?_eq_some : spokenNumber? text = some n ↔
    numberWords[n]? = some (lower (trim text)) ∨
      lower (trim text) ∉ numberWords ∧
        ∃ run, FirstRun text.toList run ∧ Denotes run n ∧ n < UInt32.size := by
  by_cases word : lower (trim text) ∈ numberWords
  · have named : spokenNumber? text = wordToNumber? text := by
      rw [spokenNumber?]
      cases found : wordToNumber? text with
      | some m => rfl
      | none => exact absurd word (wordToNumber?_eq_none.mp found)
    simp [named, wordToNumber?_eq_some, word]
  · have unnamed : numberWords[n]? ≠ some (lower (trim text)) := by
      intro named
      exact word (List.mem_of_getElem? named)
    simp [spokenNumber?_wordless word, unnamed, word]

theorem spokenNumber?_eq_none {run : List Char} (first : FirstRun text.toList run) (denotes : Denotes run n)
    (beyond : UInt32.size ≤ n) : spokenNumber? text = none := by
  apply Option.eq_none_iff_forall_ne_some.mpr
  intro m said
  obtain ⟨run', first', denotes', below⟩ := (spokenNumber?_wordless first.not_word).mp said
  rw [← first.eq, first'.eq] at denotes
  rw [denotes'.unique denotes] at below
  exact absurd below (Nat.not_lt.mpr beyond)

end Numbers

/-- A text says a number if it is the word for it, or if it is no word and its first run of digits denotes it,
within 32 bits. A first run that denotes more says nothing, whatever comes after it. So a number in digits is
said by any text in which no digit comes before it or goes on after it. -/
theorem numbers_unwrapped :
    let words := ["zero", "one", "two", "three", "four", "five", "six", "seven", "eight", "nine"]
    (∀ (text : String) (n : Nat), spokenNumber? text = some n ↔
      words[n]? = some (lower (trim text)) ∨
        lower (trim text) ∉ words ∧
          ∃ run, FirstRun text.toList run ∧ Denotes run n ∧ n < UInt32.size) ∧
    (∀ (text : String) (run : List Char) (n : Nat), FirstRun text.toList run → Denotes run n → UInt32.size ≤ n →
      spokenNumber? text = none) ∧
    ∀ (n : Nat) (before after : String), n < UInt32.size → (∀ c ∈ before.toList, isDigit c = false) →
      (∀ c ∈ after.toList.head?, isDigit c = false) → spokenNumber? (before ++ decimal n ++ after) = some n := by
  intro words
  refine ⟨fun text n => spokenNumber?_eq_some, fun text run n => spokenNumber?_eq_none, ?_⟩
  intro n before after below early ends
  have first : FirstRun (before ++ decimal n ++ after).toList (Nat.toDigits 10 n) := by
    simpa [decimal] using FirstRun.of_decimal n early ends
  apply (spokenNumber?_wordless first.not_word).mpr
  exact ⟨_, first, toDigits_denotes n, below⟩

/-- Zeros in front, the first number out of bounds before one that is not, and the last number in bounds; a word with
blanks around it, one that is part of a longer text, and one that is none of the ten. -/
theorem bounds_unwrapped :
    spokenNumber? "go to line 0040 then 3" = some 40 ∧ spokenNumber? "4294967296, or 7" = none ∧
      spokenNumber? "the 4294967295th" = some 4294967295 ∧ spokenNumber? " Seven " = some 7 ∧
      spokenNumber? "seven or 8" = some 8 ∧ spokenNumber? "ten" = none := by
  obtain ⟨said, beyond, spelled⟩ := numbers_unwrapped
  refine ⟨?_, ?_, ?_, ?_, ?_, ?_⟩
  · have digits : ∀ c ∈ "0040".toList, isDigit c = true := List.all_eq_true.mp (by decide)
    have first : FirstRun "go to line 0040 then 3".toList "0040".toList :=
      ⟨"go to line ".toList, " then 3".toList, rfl, digitless_iff.mpr (by decide), ⟨by decide, digits⟩,
        by rintro c ⟨⟩; rfl⟩
    have denotes : Denotes "0040".toList 40 := denotes_of_digits (by decide) digits
    exact (said _ 40).mpr (.inr ⟨first.not_word, _, first, denotes, by decide⟩)
  · have digits : ∀ c ∈ "4294967296".toList, isDigit c = true := List.all_eq_true.mp (by decide)
    have first : FirstRun "4294967296, or 7".toList "4294967296".toList :=
      ⟨[], ", or 7".toList, rfl, digitless_iff.mpr (by decide), ⟨by decide, digits⟩, by rintro c ⟨⟩; rfl⟩
    exact beyond _ _ 4294967296 first (denotes_of_digits (by decide) digits) (by decide)
  · have early : ∀ c ∈ "the ".toList, isDigit c = false := digitless_iff.mpr (by decide)
    exact spelled 4294967295 "the " "th" (by decide) early (by rintro c ⟨⟩; rfl)
  · exact (said " Seven " 7).mpr (.inl (by decide))
  · have early : ∀ c ∈ "seven or ".toList, isDigit c = false := digitless_iff.mpr (by decide)
    exact spelled 8 "seven or " "" (by decide) early (by rintro c ⟨⟩)
  · have digitless : ∀ c ∈ "ten".toList, isDigit c = false := digitless_iff.mpr (by decide)
    apply Option.eq_none_iff_forall_ne_some.mpr
    intro n tells
    rcases (said "ten" n).mp tells with word | ⟨-, run, first, -⟩
    · exact absurd (List.mem_of_getElem? word) (by decide)
    · obtain ⟨c, member, digit⟩ := first.exists_digit
      rw [digitless c member] at digit
      cases digit

end SpokenIntent
