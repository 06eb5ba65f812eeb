import Mathlib.Tactic.SplitIfs
import SpokenIntent.Json.Shape
import SpokenIntent.Json.Writer
import SpokenIntent.Proofs.Dict

/-!
Reading what has been written, in whatever layout. A written string is read as the string; and where the values
inside a list or an object are read as they should, so is the whole. What is read here ends by itself, so it
does not matter what follows.
-/

namespace SpokenIntent.Json

/-! ### Blanks -/

/-- Characters that may stand before a value. -/
def Blanks (before : List Char) : Prop := ∀ rest, skipBlank (before ++ rest) = skipBlank rest

theorem blanks_nil : Blanks [] := fun _ => rfl

theorem skipBlank_again (cs : List Char) : skipBlank (skipBlank cs) = skipBlank cs := by
  induction cs with
  | nil => rfl
  | cons c rest ih =>
      rw [skipBlank]
      split
      · exact ih
      · next opens => rw [skipBlank, if_neg opens]

/-! ### Strings -/

theorem hexPair_values : ∀ n < 0x20,
    hexValue? (Nat.digitChar (n / 16)) = some (n / 16) ∧ hexValue? (Nat.digitChar (n % 16)) = some (n % 16) := by
  decide

theorem readUnicode_control {n : Nat} (control : n < 0x20) (rest : List Char) :
    readUnicode ('0' :: '0' :: (hexPair n ++ rest)) = .ok (Char.ofNat n, rest) := by
  obtain ⟨high, low⟩ := hexPair_values n control
  have zero : hexValue? '0' = some 0 := by decide
  have whole : n / 16 * 16 + n % 16 = n := Nat.div_add_mod' n 16
  have plain : isLowSurrogate n = false ∧ isHighSurrogate n = false := by
    simp only [isLowSurrogate, isHighSurrogate, Bool.and_eq_false_iff, decide_eq_false_iff_not]
    omega
  simp [readUnicode, readHex, hexPair, zero, high, low, whole, plain]

/-- Every character is read as it was escaped. -/
theorem readElement_escapeChar (c : Char) (rest : List Char) :
    readElement readUnicode (escapeChar c ++ rest) = .ok (some c, rest) := by
  have short {e c : Char} (known : shortEscape? e = some c) :
      readElement readUnicode ('\\' :: e :: rest) = .ok (some c, rest) := by
    simp [readElement, known]
  simp only [escapeChar]
  split_ifs with quote backslash backspace formFeed lineFeed carriage tab control
  · subst quote; exact short (by decide)
  · subst backslash; exact short (by decide)
  · subst backspace; exact short (by decide)
  · subst formFeed; exact short (by decide)
  · subst lineFeed; exact short (by decide)
  · subst carriage; exact short (by decide)
  · subst tab; exact short (by decide)
  · have long : shortEscape? 'u' = none := by decide
    simp only [List.cons_append, List.nil_append, readElement, long]
    rw [readUnicode_control control, Char.ofNat_toNat]
    rfl
  · simp [readElement, quote, backslash, control]

theorem readElements_escaped (cs clock rest : List Char) (enough : cs.length < clock.length) :
    readElements readUnicode clock (cs.flatMap escapeChar ++ '"' :: rest) = .ok (cs, rest) := by
  induction cs generalizing clock with
  | nil =>
      cases clock with
      | nil => simp at enough
      | cons _ clock => simp [readElements, readElement]
  | cons c cs ih =>
      cases clock with
      | nil => simp at enough
      | cons _ clock =>
          rw [List.flatMap_cons, List.append_assoc, readElements, readElement_escapeChar]
          simp only [ih clock (by simpa using enough)]

theorem length_le_escaped (cs : List Char) : cs.length ≤ (cs.flatMap escapeChar).length := by
  induction cs with
  | nil => simp
  | cons c cs ih =>
      have some : 0 < (escapeChar c).length := by
        simp only [escapeChar]
        split_ifs <;> simp
      simp only [List.flatMap_cons, List.length_append, List.length_cons]
      omega

theorem readText_escaped (s : String) (rest : List Char) :
    readText (s.toList.flatMap escapeChar ++ '"' :: rest) = .ok (s, rest) := by
  have enough : s.toList.length < (s.toList.flatMap escapeChar ++ '"' :: rest).length := by
    have escaped := length_le_escaped s.toList
    simp only [List.length_append, List.length_cons]
    omega
  rw [readText, readElements_escaped _ _ _ enough]
  simp [Except.map]

/-! ### Values -/

/-- A text that begins as a value does, and that a reader takes for `x` wherever it stands. -/
structure Reads {α : Type} (reader : Reader α) (text : List Char) (x : α) : Prop where
  opens : ∃ c more, text = c :: more ∧ c ≠ ']' ∧ ∀ rest, skipBlank (c :: rest) = c :: rest
  reads : ∀ before rest, Blanks before → reader (before ++ (text ++ rest)) = .ok (x, rest)

theorem reads_string (s : String) : Reads readString (writeString s) s where
  opens := ⟨'"', _, rfl, by decide, fun _ => rfl⟩
  reads before rest blanks := by
    rw [readString, expect, blanks, writeString, List.cons_append, List.append_assoc]
    exact readText_escaped s rest

theorem Reads.skip {α : Type} {reader : Reader α} {text : List Char} {x : α} (reads : Reads reader text x)
    {before : List Char} (blanks : Blanks before) (rest : List Char) :
    skipBlank (before ++ (text ++ rest)) = text ++ rest := by
  obtain ⟨c, more, rfl, -, opens⟩ := reads.opens
  rw [blanks, List.cons_append, opens]

theorem Reads.map {α β : Type} {reader : Reader α} {text : List Char} {x : α} (reads : Reads reader text x)
    (f : α → β) : Reads (fun cs => (reader cs).map fun (x, rest) => (f x, rest)) text (f x) where
  opens := reads.opens
  reads before rest blanks := by
    simp only [reads.reads before rest blanks]
    rfl

theorem reads_none {α : Type} (reader : Reader α) : Reads (readOptional reader) writeNull none where
  opens := ⟨'n', _, rfl, by decide, fun _ => rfl⟩
  reads before rest blanks := by
    rw [readOptional, blanks]
    rfl

theorem reads_some {α : Type} {reader : Reader α} {text : List Char} {x : α} (reads : Reads reader text x)
    (notNull : ∀ more, text ≠ 'n' :: more) : Reads (readOptional reader) text (some x) where
  opens := reads.opens
  reads before rest blanks := by
    have found := reads.reads [] rest blanks_nil
    obtain ⟨c, more, rfl, -⟩ := reads.opens
    rw [readOptional, reads.skip blanks]
    simp only [List.cons_append, List.nil_append] at found ⊢
    split
    · next same =>
      cases same
      exact absurd rfl (notNull more)
    · rw [found]
      rfl

/-! ### Layouts -/

/-- How lists and objects are written: the values in them, the blanks before an item or a member, those before a
member's value, and those before the end. -/
structure Layout where
  value : Json → List Char
  indent : List Char
  gap : List Char
  close : List Char
  indent_blank : Blanks indent := by exact blanks_nil
  gap_blank : Blanks gap := by exact blanks_nil
  close_blank : Blanks close := by exact blanks_nil

namespace Layout

/-- The items after the first. -/
def items (l : Layout) : List Json → List Char
  | [] => l.close ++ [']']
  | x :: xs => ',' :: (l.indent ++ l.value x ++ l.items xs)

/-- A list after its opening bracket. -/
def list (l : Layout) : List Json → List Char
  | [] => [']']
  | x :: xs => l.indent ++ l.value x ++ l.items xs

/-- A member before the next one or the end. -/
def member (l : Layout) (m : String × Json) : List Char :=
  l.indent ++ writeString m.1 ++ ':' :: (l.gap ++ l.value m.2)

/-- The members after the first. -/
def members (l : Layout) : List (String × Json) → List Char
  | [] => l.close ++ ['}']
  | m :: ms => ',' :: (l.member m ++ l.members ms)

/-- An object after its opening brace. -/
def object (l : Layout) : List (String × Json) → List Char
  | [] => ['}']
  | m :: ms => l.member m ++ l.members ms

theorem length_le_items (l : Layout) (js : List Json) : js.length ≤ (l.items js).length := by
  induction js with
  | nil => simp
  | cons j js ih =>
      simp only [items, List.length_cons, List.length_append]
      omega

theorem value_le_items (l : Layout) {j : Json} {js : List Json} (member : j ∈ js) :
    (l.value j).length ≤ (l.items js).length := by
  induction js with
  | nil => cases member
  | cons first js ih =>
      simp only [items, List.length_cons, List.length_append]
      rcases List.mem_cons.mp member with rfl | later
      · omega
      · have := ih later
        omega

theorem value_le_list (l : Layout) {j : Json} {js : List Json} (member : j ∈ js) :
    (l.value j).length ≤ (l.list js).length := by
  cases js with
  | nil => cases member
  | cons first js =>
      simp only [list, List.length_append]
      rcases List.mem_cons.mp member with rfl | later
      · omega
      · have := l.value_le_items later
        omega

theorem length_le_members (l : Layout) (ms : List (String × Json)) : ms.length ≤ (l.members ms).length := by
  induction ms with
  | nil => simp
  | cons m ms ih =>
      simp only [members, List.length_cons, List.length_append]
      omega

theorem value_le_member (l : Layout) (m : String × Json) : (l.value m.2).length ≤ (l.member m).length := by
  simp only [member, List.length_append, List.length_cons]
  omega

theorem value_le_members (l : Layout) {m : String × Json} {ms : List (String × Json)} (mem : m ∈ ms) :
    (l.value m.2).length ≤ (l.members ms).length := by
  induction ms with
  | nil => cases mem
  | cons first ms ih =>
      simp only [members, List.length_cons, List.length_append]
      rcases List.mem_cons.mp mem with rfl | later
      · have := l.value_le_member m
        omega
      · have := ih later
        omega

theorem value_le_object (l : Layout) {m : String × Json} {ms : List (String × Json)} (mem : m ∈ ms) :
    (l.value m.2).length ≤ (l.object ms).length := by
  cases ms with
  | nil => cases mem
  | cons first ms =>
      simp only [object, List.length_append]
      rcases List.mem_cons.mp mem with rfl | later
      · have := l.value_le_member m
        omega
      · have := l.value_le_members later
        omega

end Layout

/-! ### Lists -/

section Lists
variable {α : Type} {item : Reader α} (toJson : α → Json) (l : Layout)

theorem readItems_written (x : α) (xs : List α) (each : ∀ y ∈ x :: xs, Reads item (l.value (toJson y)) y)
    (clock : List Char) (enough : xs.length < clock.length) {before : List Char} (blanks : Blanks before)
    (rest : List Char) :
    readItems item clock (before ++ (l.value (toJson x) ++ (l.items (xs.map toJson) ++ rest))) =
      .ok (x :: xs, rest) := by
  induction xs generalizing x clock before with
  | nil =>
      cases clock with
      | nil => simp at enough
      | cons _ clock =>
          rw [readItems, (each x List.mem_cons_self).reads _ _ blanks]
          simp only [List.map_nil, Layout.items, List.append_assoc, l.close_blank _]
          rfl
  | cons y ys ih =>
      cases clock with
      | nil => simp at enough
      | cons _ clock =>
          have onward := ih y (fun z member => each z (List.mem_cons_of_mem _ member)) clock
            (by simpa using enough) l.indent_blank
          rw [readItems, (each x List.mem_cons_self).reads _ _ blanks]
          simp only [List.map_cons, Layout.items, List.cons_append, List.append_assoc, skipBlank,
            Char.reduceEq, decide_false, Bool.or_self, Bool.false_eq_true, ↓reduceIte, onward]

/-- Items that are read one by one are read as a list. -/
theorem readList_written (xs : List α) (each : ∀ x ∈ xs, Reads item (l.value (toJson x)) x) (rest : List Char) :
    readList item (l.list (xs.map toJson) ++ rest) = .ok (xs, rest) := by
  cases xs with
  | nil => rfl
  | cons x xs =>
      have first := each x List.mem_cons_self
      rw [List.map_cons, Layout.list]
      simp only [List.append_assoc]
      generalize clock : l.indent ++ (l.value (toJson x) ++ (l.items (xs.map toJson) ++ rest)) = cs
      have enough : xs.length < cs.length := by
        have items := l.length_le_items (xs.map toJson)
        obtain ⟨c, more, text, -⟩ := first.opens
        simp only [List.length_map] at items
        simp only [← clock, text, List.length_append, List.length_cons]
        omega
      have due := first.skip l.indent_blank (l.items (xs.map toJson) ++ rest)
      have items := readItems_written toJson l x xs each cs enough blanks_nil rest
      obtain ⟨c, more, text, notEnd, -⟩ := first.opens
      rw [clock] at due
      simp only [text, List.cons_append, List.nil_append] at due items
      simp only [readList, due, notEnd, ↓reduceIte]
      exact items

end Lists

/-! ### Objects -/

section Objects
variable {σ : Type} {member : σ → String → Except Fault (Reader σ)} {l : Layout}

/-- Members that take a state on, each read after its key. -/
inductive Takes (member : σ → String → Except Fault (Reader σ)) (l : Layout) :
    σ → List (String × Json) → σ → Prop where
  | nil (s : σ) : Takes member l s [] s
  | cons {s t u : σ} {name : String} {value : Json} {more : List (String × Json)} {reader : Reader σ}
      (known : member s name = .ok reader) (reads : Reads reader (l.value value) t)
      (rest : Takes member l t more u) : Takes member l s ((name, value) :: more) u

/-- What comes after a member decides whether there is another. -/
def afterMember (member : σ → String → Except Fault (Reader σ)) (clock : List Char) (s : σ) : Reader σ
  | [] => .error .truncated
  | c :: rest =>
    if c = '}' then .ok (s, rest)
    else if c = ',' then readMembers readText member clock s rest
    else .error .malformed

theorem readMembers_step {s t : σ} {name : String} {value : Json} {reader : Reader σ}
    (known : member s name = .ok reader) (reads : Reads reader (l.value value) t) (tick : Char)
    (clock after : List Char) :
    readMembers readText member (tick :: clock) s (l.member (name, value) ++ after) =
      afterMember member clock t (skipBlank after) := by
  have found : reader (l.gap ++ (l.value value ++ after)) = .ok (t, after) := reads.reads l.gap after l.gap_blank
  rw [readMembers, Layout.member]
  simp only [List.append_assoc, l.indent_blank _]
  rw [writeString]
  simp only [List.cons_append, List.append_assoc, skipBlank, Char.reduceEq, decide_false, Bool.or_self,
    Bool.false_eq_true, ↓reduceIte, ne_eq, not_true_eq_false, List.nil_append, readText_escaped, known, found]
  rfl

theorem readMembers_written {s t u : σ} {name : String} {value : Json} {more : List (String × Json)}
    {reader : Reader σ} (known : member s name = .ok reader) (reads : Reads reader (l.value value) t)
    (takes : Takes member l t more u) (clock : List Char) (enough : more.length < clock.length)
    (rest : List Char) :
    readMembers readText member clock s (l.member (name, value) ++ (l.members more ++ rest)) = .ok (u, rest) := by
  induction takes generalizing s name value reader clock with
  | nil t =>
      cases clock with
      | nil => simp at enough
      | cons tick clock =>
          rw [readMembers_step known reads tick clock]
          simp only [Layout.members, List.append_assoc, l.close_blank _]
          rfl
  | cons known' reads' takes' ih =>
      cases clock with
      | nil => simp at enough
      | cons tick clock =>
          have onward := ih known' reads' clock (by simpa using enough)
          rw [readMembers_step known reads tick clock]
          simp only [Layout.members, List.cons_append, List.append_assoc, skipBlank, afterMember, Char.reduceEq,
            decide_false, Bool.or_self, Bool.false_eq_true, ↓reduceIte]
          exact onward

theorem readMembers_skipBlank (clock : List Char) (s : σ) (cs : List Char) :
    readMembers readText member clock s (skipBlank cs) = readMembers readText member clock s cs := by
  cases clock with
  | nil => rfl
  | cons tick clock => rw [readMembers, readMembers, skipBlank_again]

/-- Members that take a state on are read as an object. -/
theorem readObject_written {s u : σ} {ms : List (String × Json)} (takes : Takes member l s ms u)
    (rest : List Char) : readObject readText member s (l.object ms ++ rest) = .ok (u, rest) := by
  cases takes with
  | nil => rfl
  | @cons _ t _ name value more reader known reads takes =>
      rw [Layout.object, List.append_assoc]
      have due : ∃ key, skipBlank (l.member (name, value) ++ (l.members more ++ rest)) = '"' :: key := by
        simp only [Layout.member, List.append_assoc, l.indent_blank _]
        exact ⟨_, rfl⟩
      generalize clock : l.member (name, value) ++ (l.members more ++ rest) = cs at due ⊢
      have enough : more.length < cs.length := by
        have members := l.length_le_members more
        simp only [← clock, Layout.member, List.length_append, List.length_cons]
        omega
      have members := readMembers_written known reads takes cs enough rest
      rcases due with ⟨key, due⟩
      rw [clock, ← readMembers_skipBlank, due] at members
      simp only [readObject, due, Char.reduceEq, ↓reduceIte]
      exact members

/-- A record written as an object. -/
theorem Shape.reads_record {shape : Shape σ} {s u : σ} {ms : List (String × Json)}
    (takes : Takes shape.member l s ms u) : Reads (shape.read s) ('{' :: l.object ms) u where
  opens := ⟨'{', _, rfl, by decide, fun _ => rfl⟩
  reads before rest blanks := by
    rw [Shape.read, blanks]
    exact readObject_written takes rest

end Objects

section Dictionaries
variable {α : Type} {value : Reader α} {toJson : α → Json} {l : Layout}

/-- What a member does to a dictionary that is being read. -/
def takeEntry (value : Reader α) (d : Dict α) (name : String) : Except Fault (Reader (Dict α)) :=
  .ok fun cs => (value cs).map fun (v, cs) => (Dict.insert name v d, cs)

/-- Keys ascend as they are written, so every entry is put last. -/
theorem dict_takes (front back : Dict α) (sorted : Dict.Sorted (front ++ back))
    (each : ∀ e ∈ back, Reads value (l.value (toJson e.2)) e.2) :
    Takes (takeEntry value) l front (back.map fun (k, v) => (k, toJson v)) (front ++ back) := by
  induction back generalizing front with
  | nil => simpa using Takes.nil front
  | cons e back ih =>
      have above : ∀ e' ∈ front, e'.1 < e.1 := fun e' member =>
        (List.pairwise_append.mp sorted).2.2 e' member e List.mem_cons_self
      have first := (each e List.mem_cons_self).map fun v => Dict.insert e.1 v front
      rw [Dict.insert_above above] at first
      have rest := ih (front ++ [e]) (by simpa using sorted)
        fun e' member => each e' (List.mem_cons_of_mem _ member)
      rw [List.append_assoc] at rest
      exact .cons rfl first rest

end Dictionaries

end SpokenIntent.Json
