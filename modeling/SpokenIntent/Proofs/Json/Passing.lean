import Mathlib.Tactic.SplitIfs
import SpokenIntent.Json.Shape

/-!
Values that nobody asks for. What can be read can be passed over, to the same place: passing over is laxer than
reading, and the clock that counts its steps lasts as long as the text does.
-/

namespace SpokenIntent.Json

/-- In texts of at most `n` characters, `other` takes all that `reader` takes, and neither goes past the end. -/
def Follows {α β : Type} (n : Nat) (reader : Reader α) (other : Reader β) : Prop :=
  ∀ cs x rest, cs.length ≤ n → reader cs = .ok (x, rest) →
    rest.length ≤ cs.length ∧ ∃ y, other cs = .ok (y, rest)

theorem map_eq_ok {α β : Type} {found : Except Fault (α × List Char)} {f : α → β} {y : β} {rest : List Char}
    (told : (found.map fun (x, cs) => (f x, cs)) = .ok (y, rest)) : ∃ x, f x = y ∧ found = .ok (x, rest) := by
  cases found with
  | error fault => cases told
  | ok result =>
      cases told
      exact ⟨result.1, rfl, rfl⟩

theorem length_skipBlank (cs : List Char) : (skipBlank cs).length ≤ cs.length := by
  induction cs with
  | nil => exact Nat.le_refl _
  | cons c rest ih =>
      rw [skipBlank]
      split
      · exact Nat.le_succ_of_le ih
      · exact Nat.le_refl _

theorem length_of_skipBlank {cs : List Char} {c : Char} {rest : List Char} (found : skipBlank cs = c :: rest) :
    rest.length < cs.length := by
  have shorter := length_skipBlank cs
  rw [found] at shorter
  exact shorter

theorem length_keyword {word cs rest : List Char} (told : readKeyword word cs = .ok ((), rest)) :
    rest.length ≤ cs.length := by
  induction word generalizing cs with
  | nil =>
      cases told
      exact Nat.le_refl _
  | cons k more ih =>
      cases cs with
      | nil => cases told
      | cons c cs =>
          rw [readKeyword] at told
          split at told
          · exact Nat.le_succ_of_le (ih told)
          · cases told

/-! ### Strings -/

theorem readHex_eq_ok {cs rest : List Char} {m : Nat} (told : readHex cs = .ok (m, rest)) :
    cs.length = rest.length + 4 := by
  unfold readHex at told
  split at told
  · split at told
    · cases told
      rfl
    · split at told <;> cases told
  · split at told <;> cases told

/-- What follows the backslash and the `u` when nobody asks what it denotes. -/
def passUnicode : Reader Char := fun cs => (readHex cs).map fun (_, rest) => (' ', rest)

theorem passText_eq (cs : List Char) :
    passText cs = (readElements passUnicode cs cs).map fun (_, rest) => ((), rest) := rfl

theorem readUnicode_eq_ok {cs rest : List Char} {c : Char} (told : readUnicode cs = .ok (c, rest)) :
    (∃ n, readHex cs = .ok (n, rest)) ∨
      ∃ n m half, readHex cs = .ok (n, '\\' :: 'u' :: half) ∧ readHex half = .ok (m, rest) := by
  unfold readUnicode at told
  cases first : readHex cs with
  | error fault => simp [first] at told
  | ok found =>
      obtain ⟨n, after⟩ := found
      simp only [first] at told
      split_ifs at told with low plain
      · cases told
        exact .inl ⟨n, rfl⟩
      · rcases after with _ | ⟨b, _ | ⟨u, half⟩⟩
        · cases told
        · simp only at told
          split_ifs at told
        · simp only at told
          split_ifs at told with backslash unicode
          have backslash := Decidable.of_not_not backslash
          have unicode := Decidable.of_not_not unicode
          subst backslash unicode
          cases second : readHex half with
          | error fault => simp [second] at told
          | ok found =>
              simp only [second] at told
              split_ifs at told
              simp only [Except.ok.injEq, Prod.mk.injEq] at told
              obtain ⟨-, rfl⟩ := told
              exact .inr ⟨n, found.1, half, rfl, second⟩

theorem passElement_unicode {cs rest : List Char} {n : Nat} (told : readHex cs = .ok (n, rest)) :
    readElement passUnicode ('\\' :: 'u' :: cs) = .ok (some ' ', rest) := by
  have long : shortEscape? 'u' = none := by decide
  simp [readElement, long, passUnicode, told, Except.map]

/-- An element is passed over as one, and a surrogate pair as two. -/
theorem element_follows {cs rest : List Char} {found : Option Char}
    (told : readElement readUnicode cs = .ok (found, rest)) :
    (∃ other : Option Char, other.isSome = found.isSome ∧ readElement passUnicode cs = .ok (other, rest)) ∨
      found.isSome = true ∧ ∃ half, readElement passUnicode cs = .ok (some ' ', half) ∧
        readElement passUnicode half = .ok (some ' ', rest) := by
  rcases cs with _ | ⟨c, cs⟩
  · cases told
  · unfold readElement at told
    simp only at told
    split_ifs at told with quote backslash control
    · cases told
      exact .inl ⟨none, rfl, by simp [readElement, quote]⟩
    · rcases cs with _ | ⟨e, cs⟩
      · cases told
      · simp only at told
        cases short : shortEscape? e with
        | some c' =>
            simp only [short] at told
            cases told
            exact .inl ⟨some c', rfl, by simp [readElement, backslash, short]⟩
        | none =>
            simp only [short] at told
            split_ifs at told with u
            subst backslash u
            obtain ⟨c', rfl, unicode⟩ := map_eq_ok told
            rcases readUnicode_eq_ok unicode with ⟨n, one⟩ | ⟨n, m, half, one, two⟩
            · exact .inl ⟨some ' ', rfl, passElement_unicode one⟩
            · exact .inr ⟨rfl, _, passElement_unicode one, passElement_unicode two⟩
    · cases told
      exact .inl ⟨some c, rfl, by simp [readElement, quote, backslash, control]⟩

theorem passElement_shorter {cs rest : List Char} {found : Option Char}
    (told : readElement passUnicode cs = .ok (found, rest)) : rest.length < cs.length := by
  rcases cs with _ | ⟨c, cs⟩
  · cases told
  · unfold readElement at told
    simp only at told
    split_ifs at told
    · cases told
      exact Nat.lt_succ_self _
    · rcases cs with _ | ⟨e, cs⟩
      · cases told
      · simp only at told
        split at told
        · cases told
          simp only [List.length_cons]
          omega
        · split_ifs at told
          obtain ⟨c', -, unicode⟩ := map_eq_ok told
          obtain ⟨n, -, hex⟩ := map_eq_ok (f := fun _ => ' ') unicode
          have four := readHex_eq_ok hex
          simp only [List.length_cons]
          omega
    · cases told
      exact Nat.lt_succ_self _

theorem readElements_eq_ok {unicode : Reader Char} {tick : Char} {clock cs s rest : List Char} :
    readElements unicode (tick :: clock) cs = .ok (s, rest) ↔
      readElement unicode cs = .ok (none, rest) ∧ s = [] ∨
        ∃ c after t, readElement unicode cs = .ok (some c, after) ∧
          readElements unicode clock after = .ok (t, rest) ∧ s = c :: t := by
  rw [readElements]
  constructor
  · intro told
    rcases element : readElement unicode cs with fault | ⟨_ | c, after⟩
    · rw [element] at told
      cases told
    · rw [element] at told
      cases told
      exact .inl ⟨rfl, rfl⟩
    · rcases more : readElements unicode clock after with fault | ⟨t, rest'⟩
      · simp only [element, more, reduceCtorEq] at told
      · simp only [element, more] at told
        cases told
        exact .inr ⟨c, after, t, rfl, more, rfl⟩
  · rintro (⟨element, rfl⟩ | ⟨c, after, t, element, more, rfl⟩)
    · rw [element]
    · simp only [element, more]

/-- A clock as long as the text is enough to pass over a string, however often it ticked while it was read. -/
theorem elements_follow {clock clock' cs rest s : List Char} (enough : cs.length ≤ clock'.length)
    (told : readElements readUnicode clock cs = .ok (s, rest)) :
    rest.length ≤ cs.length ∧ ∃ t, readElements passUnicode clock' cs = .ok (t, rest) := by
  induction clock generalizing clock' cs s with
  | nil => cases told
  | cons _ clock ih =>
      rcases readElements_eq_ok.mp told with ⟨last, -⟩ | ⟨c, after, t, element, more, -⟩
      · rcases element_follows last with ⟨other, alike, passed⟩ | ⟨alike, -⟩
        · have shorter := passElement_shorter passed
          obtain rfl := Option.not_isSome_iff_eq_none.mp (by simp [alike] : ¬other.isSome = true)
          rcases clock' with _ | ⟨tick, clock'⟩
          · exact absurd enough (by simp only [List.length_nil]; omega)
          exact ⟨Nat.le_of_lt shorter, [], readElements_eq_ok.mpr (.inl ⟨passed, rfl⟩)⟩
        · cases alike
      -- A pair of surrogates is one element of the text that is read and two of the text that is passed over,
      -- so that the clocks do not tick together; the characters that are left are what both are measured by.
      · rcases element_follows element with ⟨other, alike, passed⟩ | ⟨-, half, first, second⟩
        · have shorter := passElement_shorter passed
          obtain ⟨c', rfl⟩ := Option.isSome_iff_exists.mp alike
          rcases clock' with _ | ⟨tick, clock'⟩
          · exact absurd enough (by simp only [List.length_nil]; omega)
          simp only [List.length_cons] at enough
          have left : after.length ≤ clock'.length := by omega
          obtain ⟨fits, t', passes⟩ := ih left more
          exact ⟨by omega, _, readElements_eq_ok.mpr (.inr ⟨c', after, t', passed, passes, rfl⟩)⟩
        · have shorter := passElement_shorter first
          have shorter' := passElement_shorter second
          rcases clock' with _ | ⟨tick, _ | ⟨tick', clock'⟩⟩
          · exact absurd enough (by simp only [List.length_nil]; omega)
          · exact absurd enough (by simp only [List.length_cons, List.length_nil]; omega)
          simp only [List.length_cons] at enough
          have left : after.length ≤ clock'.length := by omega
          obtain ⟨fits, t', passes⟩ := ih left more
          have onward : readElements passUnicode (tick' :: clock') half = .ok (' ' :: t', rest) :=
            readElements_eq_ok.mpr (.inr ⟨' ', after, t', second, passes, rfl⟩)
          exact ⟨by omega, _, readElements_eq_ok.mpr (.inr ⟨' ', half, _, first, onward, rfl⟩)⟩

theorem text_follows (n : Nat) : Follows n readText passText := by
  intro cs s rest _ told
  obtain ⟨cs', -, elements⟩ := map_eq_ok told
  obtain ⟨fits, t, passes⟩ := elements_follow (Nat.le_refl _) elements
  refine ⟨fits, (), ?_⟩
  rw [passText_eq, passes]
  rfl

/-! ### Numbers -/

section
variable {atEnd : Fault} (atEnd' : Fault) {cs rest : List Char}

/-- A number that does not break off is read in the same way, whatever it would be called if it did. -/
theorem readDigits_follows {digits : List Char} (told : readDigits atEnd cs = .ok (digits, rest)) :
    rest.length ≤ cs.length ∧ readDigits atEnd' cs = .ok (digits, rest) := by
  have fits : (spanDigits cs).2.length ≤ cs.length := (List.dropWhile_sublist _).length_le
  rw [readDigits] at told ⊢
  generalize spanDigits cs = span at told fits ⊢
  rcases span with ⟨_ | ⟨d, ds⟩, after⟩
  · cases after <;> cases told
  · cases told
    exact ⟨fits, rfl⟩

theorem readWhole_follows {digits : List Char} (told : readWhole atEnd cs = .ok (digits, rest)) :
    rest.length ≤ cs.length ∧ readWhole atEnd' cs = .ok (digits, rest) := by
  rw [readWhole] at told ⊢
  split at told
  · cases told
  · next alone =>
    obtain ⟨fits, same⟩ := readDigits_follows atEnd' told
    rw [same]
    refine ⟨fits, ?_⟩
    split
    · next two => cases two; exact absurd told (alone _ _ _)
    · rfl

theorem readFraction_follows {digits : List Char} (told : readFraction atEnd cs = .ok (digits, rest)) :
    rest.length ≤ cs.length ∧ readFraction atEnd' cs = .ok (digits, rest) := by
  unfold readFraction at told ⊢
  split at told
  · obtain ⟨fits, same⟩ := readDigits_follows atEnd' told
    exact ⟨Nat.le_succ_of_le fits, same⟩
  · cases told
    exact ⟨Nat.le_refl _, rfl⟩

theorem readExponent_follows {exponent : Option (Bool × List Char)}
    (told : readExponent atEnd cs = .ok (exponent, rest)) :
    rest.length ≤ cs.length ∧ readExponent atEnd' cs = .ok (exponent, rest) := by
  rcases cs with _ | ⟨c, cs⟩
  · cases told
    exact ⟨Nat.le_refl _, rfl⟩
  · unfold readExponent at told ⊢
    simp only at told ⊢
    split_ifs at told ⊢ with letter
    · have digits {after : List Char} (negative : Bool) (shorter : after.length ≤ cs.length)
          (told : ((readDigits atEnd after).map fun (ds, cs) => (some (negative, ds), cs)) = .ok (exponent, rest)) :
          rest.length ≤ (c :: cs).length ∧
            ((readDigits atEnd' after).map fun (ds, cs) => (some (negative, ds), cs)) = .ok (exponent, rest) := by
        obtain ⟨ds, rfl, found⟩ := map_eq_ok (f := fun ds => some (negative, ds)) told
        obtain ⟨fits, same⟩ := readDigits_follows atEnd' found
        refine ⟨Nat.le_succ_of_le (Nat.le_trans fits shorter), ?_⟩
        rw [same]
        rfl
      split at told
      · exact digits false (Nat.le_succ _) told
      · exact digits true (Nat.le_succ _) told
      · exact digits false (Nat.le_refl _) told
    · cases told
      exact ⟨Nat.le_refl _, rfl⟩

theorem readUnsigned_follows {negative : Bool} {n : Numeral} (told : readUnsigned atEnd negative cs = .ok (n, rest)) :
    rest.length ≤ cs.length ∧ readUnsigned atEnd' negative cs = .ok (n, rest) := by
  unfold readUnsigned at told ⊢
  rcases whole : readWhole atEnd cs with fault | ⟨digits, after⟩
  · rw [whole] at told; cases told
  rcases fraction : readFraction atEnd after with fault | ⟨decimals, after'⟩
  · simp only [whole, fraction, reduceCtorEq] at told
  rcases exponent : readExponent atEnd after' with fault | ⟨power, after''⟩
  · simp only [whole, fraction, exponent, reduceCtorEq] at told
  · simp only [whole, fraction, exponent] at told
    cases told
    obtain ⟨fits, whole'⟩ := readWhole_follows atEnd' whole
    obtain ⟨fits', fraction'⟩ := readFraction_follows atEnd' fraction
    obtain ⟨fits'', exponent'⟩ := readExponent_follows atEnd' exponent
    refine ⟨by omega, ?_⟩
    simp only [whole', fraction', exponent']

theorem readSigned_follows {n : Numeral} (told : readSigned atEnd cs = .ok (n, rest)) :
    rest.length ≤ cs.length ∧ readSigned atEnd' cs = .ok (n, rest) := by
  unfold readSigned at told ⊢
  split at told
  · obtain ⟨fits, same⟩ := readUnsigned_follows atEnd' told
    exact ⟨Nat.le_succ_of_le fits, same⟩
  · obtain ⟨fits, same⟩ := readUnsigned_follows atEnd' told
    exact ⟨fits, same⟩

end

theorem numeral_follows (n : Nat) : Follows n readNumeral passNumeral := by
  intro cs x rest _ told
  rw [readNumeral] at told
  rcases signed : readSigned .truncated cs with fault | ⟨y, after⟩
  · simp only [signed, reduceCtorEq] at told
  · simp only [signed] at told
    split_ifs at told
    cases told
    obtain ⟨fits, same⟩ := readSigned_follows .malformed signed
    refine ⟨fits, (), ?_⟩
    rw [passNumeral, same]
    rfl

/-! ### Lists and objects -/

section
variable {α β : Type} {n : Nat} {item : Reader α} {other : Reader β}

theorem items_follow (each : Follows n item other) (clock : List Char) :
    Follows n (readItems item clock) (readItems other clock) := by
  induction clock with
  | nil =>
      intro cs xs rest _ told
      cases told
  | cons _ clock ih =>
      intro cs xs rest short told
      rw [readItems] at told ⊢
      rcases first : item cs with fault | ⟨x, after⟩
      · simp only [first, reduceCtorEq] at told
      · obtain ⟨fits, y, same⟩ := each cs x after short first
        simp only [first, same] at told ⊢
        rcases next : skipBlank after with _ | ⟨c, more⟩
        · simp only [next, reduceCtorEq] at told
        · have shorter := length_of_skipBlank next
          simp only [next] at told ⊢
          split_ifs at told ⊢ with last comma
          · cases told
            exact ⟨by omega, _, rfl⟩
          · rcases items : readItems item clock more with fault | ⟨ys, after'⟩
            · simp only [items, reduceCtorEq] at told
            · simp only [items] at told
              cases told
              obtain ⟨fits', zs, same'⟩ := ih more ys rest (by omega) items
              simp only [same']
              exact ⟨by omega, _, rfl⟩

theorem list_follows (each : Follows n item other) : Follows n (readList item) (readList other) := by
  intro cs xs rest short told
  rw [readList] at told ⊢
  rcases next : skipBlank cs with _ | ⟨c, more⟩
  · simp only [next, reduceCtorEq] at told
  · have shorter := length_of_skipBlank next
    simp only [next] at told ⊢
    split_ifs at told ⊢ with last
    · cases told
      exact ⟨Nat.le_of_lt shorter, _, rfl⟩
    · obtain ⟨fits, ys, same⟩ := items_follow each cs (c :: more) xs rest (Nat.le_trans shorter short) told
      exact ⟨Nat.le_trans fits shorter, ys, same⟩

end

section
variable {κ κ' σ σ' : Type} {n : Nat} {key : Reader κ} {key' : Reader κ'}
  {member : σ → κ → Except Fault (Reader σ)} {member' : σ' → κ' → Except Fault (Reader σ')}

/-- What there must be for a member to be read, and what may come after it. -/
theorem readMembers_eq_ok {tick : Char} {clock cs rest : List Char} {s u : σ}
    (told : readMembers key member (tick :: clock) s cs = .ok (u, rest)) :
    ∃ cs₁ name cs₂ value cs₃ t cs₄ c cs₅, skipBlank cs = '"' :: cs₁ ∧ key cs₁ = .ok (name, cs₂) ∧
      member s name = .ok value ∧ skipBlank cs₂ = ':' :: cs₃ ∧ value cs₃ = .ok (t, cs₄) ∧ skipBlank cs₄ = c :: cs₅ ∧
      (c = '}' ∧ t = u ∧ cs₅ = rest ∨ c ≠ '}' ∧ c = ',' ∧ readMembers key member clock t cs₅ = .ok (u, rest)) := by
  rw [readMembers] at told
  rcases opening : skipBlank cs with _ | ⟨c, cs₁⟩
  · simp only [opening, reduceCtorEq] at told
  simp only [opening] at told
  split_ifs at told with quote
  rcases named : key cs₁ with fault | ⟨name, cs₂⟩
  · simp only [named, reduceCtorEq] at told
  simp only [named] at told
  rcases known : member s name with fault | value
  · simp only [known, reduceCtorEq] at told
  simp only [known] at told
  rcases colon : skipBlank cs₂ with _ | ⟨c', cs₃⟩
  · simp only [colon, reduceCtorEq] at told
  simp only [colon] at told
  split_ifs at told with mark
  rcases taken : value cs₃ with fault | ⟨t, cs₄⟩
  · simp only [taken, reduceCtorEq] at told
  simp only [taken] at told
  rcases closing : skipBlank cs₄ with _ | ⟨c'', cs₅⟩
  · simp only [closing, reduceCtorEq] at told
  simp only [closing] at told
  have quote := Decidable.of_not_not quote
  have mark := Decidable.of_not_not mark
  subst quote mark
  refine ⟨cs₁, name, cs₂, value, cs₃, t, cs₄, c'', cs₅, rfl, named, known, colon, taken, closing, ?_⟩
  split_ifs at told with last comma
  · cases told
    exact .inl ⟨last, rfl, rfl⟩
  · exact .inr ⟨last, comma, told⟩

theorem members_follow (keys : Follows n key key')
    (each : ∀ s name value, member s name = .ok value →
      ∀ s' name', ∃ value', member' s' name' = .ok value' ∧ Follows n value value')
    (clock : List Char) (s : σ) (s' : σ') :
    Follows n (readMembers key member clock s) (readMembers key' member' clock s') := by
  induction clock generalizing s s' with
  | nil =>
      intro cs u rest _ told
      cases told
  | cons _ clock ih =>
      intro cs u rest short told
      obtain ⟨cs₁, name, cs₂, value, cs₃, t, cs₄, c, cs₅, opening, named, known, colon, taken, closing, onward⟩ :=
        readMembers_eq_ok told
      have shorter := length_of_skipBlank opening
      have shorter' := length_of_skipBlank colon
      have shorter'' := length_of_skipBlank closing
      obtain ⟨fits, name', named'⟩ := keys cs₁ name cs₂ (by omega) named
      obtain ⟨value', known', follows⟩ := each s name value known s' name'
      obtain ⟨fits', t', taken'⟩ := follows cs₃ t cs₄ (by omega) taken
      simp only [readMembers, opening, named', known', colon, taken', closing, ne_eq, not_true_eq_false, ↓reduceIte]
      rcases onward with ⟨rfl, rfl, rfl⟩ | ⟨last, rfl, more⟩
      · exact ⟨by omega, t', rfl⟩
      · obtain ⟨fits'', same⟩ := ih t t' cs₅ u rest (by omega) more
        exact ⟨by omega, same⟩

theorem object_follows (keys : Follows n key key')
    (each : ∀ s name value, member s name = .ok value →
      ∀ s' name', ∃ value', member' s' name' = .ok value' ∧ Follows n value value') (s : σ) (s' : σ') :
    Follows n (readObject key member s) (readObject key' member' s') := by
  intro cs u rest short told
  rw [readObject] at told ⊢
  rcases next : skipBlank cs with _ | ⟨c, more⟩
  · simp only [next, reduceCtorEq] at told
  · have shorter := length_of_skipBlank next
    simp only [next] at told ⊢
    split_ifs at told ⊢ with last
    · cases told
      exact ⟨Nat.le_of_lt shorter, _, rfl⟩
    · obtain ⟨fits, same⟩ := members_follow keys each cs s s' (c :: more) u rest (Nat.le_trans shorter short) told
      exact ⟨Nat.le_trans fits shorter, same⟩

end

/-! ### Values -/

theorem Follows.mapLeft {α β γ : Type} {n : Nat} {reader : Reader α} {other : Reader β}
    (follows : Follows n reader other) (f : α → γ) :
    Follows n (fun cs => (reader cs).map fun (x, cs) => (f x, cs)) other := by
  intro cs x rest short told
  obtain ⟨y, -, found⟩ := map_eq_ok told
  exact follows cs y rest short found

theorem Follows.mapRight {α β γ : Type} {n : Nat} {reader : Reader α} {other : Reader β}
    (follows : Follows n reader other) (g : β → γ) :
    Follows n reader fun cs => (other cs).map fun (y, cs) => (g y, cs) := by
  intro cs x rest short told
  obtain ⟨fits, y, same⟩ := follows cs x rest short told
  refine ⟨fits, g y, ?_⟩
  simp only [same]
  rfl

theorem keyword_follows (n : Nat) (word : List Char) : Follows n (readKeyword word) (readKeyword word) :=
  fun _ _ _ _ told => ⟨length_keyword told, (), told⟩

/-- What can be read as a value can be passed over, to the same place. -/
theorem value_follows (clock : List Char) {clock' : List Char} (depth : Nat) {n : Nat} (enough : n ≤ clock'.length) :
    Follows n (readValue clock depth) (passValue clock') := by
  induction clock generalizing clock' depth n with
  | nil =>
      intro cs x rest _ told
      cases told
  | cons _ clock ih =>
      intro cs x rest short told
      rw [readValue] at told
      rcases opening : skipBlank cs with _ | ⟨c, more⟩
      · simp only [opening, reduceCtorEq] at told
      have shorter := length_of_skipBlank opening
      rcases clock' with _ | ⟨tick, clock'⟩
      · exact absurd enough (by simp only [List.length_nil]; omega)
      have left : more.length ≤ clock'.length := by
        simp only [List.length_cons] at enough
        omega
      have onward {β : Type} {reader : Reader β} {other : Reader Unit} (f : β → Json)
          (follows : Follows more.length reader other)
          (told : ((reader more).map fun (y, cs) => (f y, cs)) = .ok (x, rest)) :
          rest.length ≤ cs.length ∧ ∃ y, other more = .ok (y, rest) := by
        obtain ⟨fits, same⟩ := follows.mapLeft f more x rest (Nat.le_refl _) told
        exact ⟨Nat.le_trans fits (Nat.le_of_lt shorter), same⟩
      rw [passValue]
      simp only [opening] at told ⊢
      -- One case for each kind of value. Only arrays and objects cost depth, which is not counted in passing.
      split_ifs at told ⊢
      · exact onward (fun _ => .null) (keyword_follows _ _) told
      · exact onward (fun _ => .bool true) (keyword_follows _ _) told
      · exact onward (fun _ => .bool false) (keyword_follows _ _) told
      · exact onward .string (text_follows _) told
      · obtain ⟨fits, same⟩ := (numeral_follows cs.length).mapLeft Json.number (c :: more) x rest shorter told
        exact ⟨Nat.le_trans fits shorter, same⟩
      · cases depth with
        | zero => cases told
        | succ depth =>
            exact onward .array ((list_follows (ih depth left)).mapRight fun _ => ()) told
      · cases depth with
        | zero => cases told
        | succ depth =>
            refine onward .object (object_follows (text_follows _) ?_ _ _) told
            intro ms name value known s' name'
            cases known
            exact ⟨_, rfl, (ih depth left).mapLeft fun v => ms ++ [(name, v)]⟩

/-- Whatever depth was allowed, a value can be passed over. -/
theorem passAny_value {clock cs rest : List Char} {depth : Nat} {x : Json}
    (told : readValue clock depth cs = .ok (x, rest)) : passAny cs = .ok ((), rest) := by
  obtain ⟨-, y, same⟩ := value_follows clock depth (Nat.le_refl _) cs x rest (Nat.le_refl _) told
  exact same

end SpokenIntent.Json
