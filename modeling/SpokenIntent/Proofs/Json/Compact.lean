import SpokenIntent.Proofs.Json.Layout

/-!
Reading what has been written on one line: a value without numbers, whatever its texts and the names of its
members, is read as it was.
-/

namespace SpokenIntent.Json

/-- A value without numbers, in which no more than `depth` lists and objects stand inside one another. -/
def Plain : Nat → Json → Prop
  | _, .null => True
  | _, .bool _ => True
  | _, .number _ => False
  | _, .string _ => True
  | 0, .array _ => False
  | 0, .object _ => False
  | depth + 1, .array items => ∀ x ∈ items, Plain depth x
  | depth + 1, .object members => ∀ m ∈ members, Plain depth m.2

theorem plain_string (depth : Nat) (s : String) : Plain depth (.string s) := by
  rw [Plain]
  trivial

/-- An object whose members are texts. -/
theorem plain_texts (depth : Nat) {ms : List (String × Json)} (texts : ∀ m ∈ ms, ∃ s, m.2 = .string s) :
    Plain (depth + 1) (.object ms) := by
  intro m member
  rcases texts m member with ⟨s, same⟩
  rw [same]
  exact plain_string depth s

/-- Nothing but the values and what divides them. -/
def oneLine : Layout where
  value := write
  indent := []
  gap := []
  close := []

theorem writeItems_eq (xs : List Json) : writeItems xs = oneLine.items xs := by
  induction xs with
  | nil => rfl
  | cons x xs ih =>
      rw [writeItems, ih]
      rfl

theorem writeMembers_eq (ms : List (String × Json)) : writeMembers ms = oneLine.members ms := by
  induction ms with
  | nil => rfl
  | cons m ms ih =>
      rw [writeMembers, ih]
      simp [Layout.members, Layout.member, oneLine]

theorem write_array (xs : List Json) : write (.array xs) = '[' :: oneLine.list xs := by
  cases xs with
  | nil => rfl
  | cons x xs =>
      rw [write, writeItems_eq]
      rfl

theorem write_object (ms : List (String × Json)) : write (.object ms) = '{' :: oneLine.object ms := by
  cases ms with
  | nil => rfl
  | cons m ms =>
      rw [write, writeMembers_eq]
      simp [Layout.object, Layout.member, oneLine]

/-- A record written as an object. -/
theorem Shape.reads_compact {σ : Type} {shape : Shape σ} {s u : σ} {ms : List (String × Json)}
    (takes : Takes shape.member oneLine s ms u) : Reads (shape.read s) (write (.object ms)) u := by
  rw [write_object]
  exact Shape.reads_record takes

section Values
variable (tick : Char) (clock : List Char) (depth : Nat)

theorem reads_null : Reads (readValue (tick :: clock) depth) (write .null) .null where
  opens := ⟨'n', _, rfl, by decide, fun _ => rfl⟩
  reads before rest blanks := by
    rw [readValue, blanks]
    rfl

theorem reads_bool (b : Bool) : Reads (readValue (tick :: clock) depth) (write (.bool b)) (.bool b) where
  opens := by cases b <;> exact ⟨_, _, rfl, by decide, fun _ => rfl⟩
  reads before rest blanks := by
    rw [readValue, blanks]
    cases b <;> rfl

theorem reads_text (s : String) : Reads (readValue (tick :: clock) depth) (write (.string s)) (.string s) where
  opens := ⟨'"', _, rfl, by decide, fun _ => rfl⟩
  reads before rest blanks := by
    rw [readValue, blanks, write, writeString, List.cons_append, List.append_assoc]
    change (readText (s.toList.flatMap escapeChar ++ '"' :: rest)).map _ = _
    rw [readText_escaped]
    rfl

theorem reads_array {xs : List Json} (each : ∀ x ∈ xs, Reads (readValue clock depth) (write x) x) :
    Reads (readValue (tick :: clock) (depth + 1)) (write (.array xs)) (.array xs) where
  opens := ⟨'[', _, write_array xs, by decide, fun _ => rfl⟩
  reads before rest blanks := by
    have found := readList_written id oneLine xs each rest
    rw [List.map_id] at found
    rw [readValue, blanks, write_array]
    change (readList (readValue clock depth) (oneLine.list xs ++ rest)).map _ = _
    rw [found]
    rfl

/-- What a member does to the members that have been read. -/
def takeMember (value : Reader Json) (members : List (String × Json)) (name : String) :
    Except Fault (Reader (List (String × Json))) :=
  .ok fun cs => (value cs).map fun (v, cs) => (members ++ [(name, v)], cs)

theorem members_take {value : Reader Json} (front back : List (String × Json))
    (each : ∀ m ∈ back, Reads value (write m.2) m.2) :
    Takes (takeMember value) oneLine front back (front ++ back) := by
  induction back generalizing front with
  | nil => simpa using Takes.nil front
  | cons m back ih =>
      have first := (each m List.mem_cons_self).map fun v => front ++ [(m.1, v)]
      have rest := ih (front ++ [m]) fun m' member => each m' (List.mem_cons_of_mem _ member)
      rw [List.append_assoc] at rest
      exact .cons rfl first rest

theorem reads_object {ms : List (String × Json)}
    (each : ∀ m ∈ ms, Reads (readValue clock depth) (write m.2) m.2) :
    Reads (readValue (tick :: clock) (depth + 1)) (write (.object ms)) (.object ms) where
  opens := ⟨'{', _, write_object ms, by decide, fun _ => rfl⟩
  reads before rest blanks := by
    have found := readObject_written (members_take [] ms each) rest
    rw [List.nil_append] at found
    rw [readValue, blanks, write_object]
    change (readObject readText (takeMember (readValue clock depth)) [] (oneLine.object ms ++ rest)).map _ = _
    rw [found]
    rfl

end Values

theorem write_pos {depth : Nat} {j : Json} (plain : Plain depth j) : 0 < (write j).length := by
  cases j with
  | null => decide
  | bool b => cases b <;> decide
  | number n => simp [Plain] at plain
  | string s => simp [write, writeString]
  | array xs => simp [write_array]
  | object ms => simp [write_object]

/-- A value takes no more ticks than it has characters: one for itself, and then those of its longest part. -/
theorem reads_plain {depth : Nat} {j : Json} (plain : Plain depth j) {clock : List Char}
    (enough : (write j).length ≤ clock.length) : Reads (readValue clock depth) (write j) j := by
  -- on the clock, which has a tick less for what is inside a list or an object
  induction clock generalizing j depth with
  | nil => exact absurd enough (Nat.not_le.mpr (write_pos plain))
  | cons tick clock ih =>
      cases j with
      | null => exact reads_null tick clock depth
      | bool b => exact reads_bool tick clock depth b
      | number n => simp [Plain] at plain
      | string s => exact reads_text tick clock depth s
      | array xs =>
          rw [write_array, List.length_cons, List.length_cons, Nat.add_le_add_iff_right] at enough
          cases depth with
          | zero => simp [Plain] at plain
          | succ depth =>
              apply reads_array
              intro x member
              exact ih (plain x member) ((oneLine.value_le_list member).trans enough)
      | object ms =>
          rw [write_object, List.length_cons, List.length_cons, Nat.add_le_add_iff_right] at enough
          cases depth with
          | zero => simp [Plain] at plain
          | succ depth =>
              apply reads_object
              intro m member
              exact ih (plain m member) ((oneLine.value_le_object member).trans enough)

/-- What is written on one line is read as it was. -/
theorem parse_compact {j : Json} (plain : Plain maxDepth j) : parse j.compact = .ok j := by
  have found := (reads_plain plain Nat.le.refl).reads [] [] blanks_nil
  rw [List.nil_append, List.append_nil] at found
  simp only [parse, readDocument, compact, String.toList_ofList, found]
  rfl

end SpokenIntent.Json
