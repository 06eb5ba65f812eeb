import SpokenIntent.Json.Account
import SpokenIntent.Proofs.Json.Compact

/-!
The two ways of taking an account down. Both fail for the same accounts, with the same reason; otherwise what
one writes is the text of what the other builds, but for the order of the members.
-/

namespace SpokenIntent

open Json

/-! ### Text with commas -/

theorem Json.intercalate_items (x : Json) (xs : List Json) :
    [','].intercalate ((x :: xs).map write) ++ [']'] = write x ++ oneLine.items xs := by
  induction xs generalizing x with
  | nil => simp [Layout.items, oneLine]
  | cons y ys ih =>
      have tail := ih y
      rw [List.map_cons] at tail
      rw [List.map_cons, List.map_cons, List.intercalate_cons_cons, List.append_assoc, List.append_assoc, tail]
      rfl

theorem Json.write_items (xs : List Json) :
    write (.array xs) = '[' :: ([','].intercalate (xs.map write) ++ [']']) := by
  rw [write_array]
  cases xs with
  | nil => rfl
  | cons x xs =>
      rw [intercalate_items]
      rfl

/-- A member of an object on one line. -/
def Json.writeMember (m : String × Json) : List Char := writeString m.1 ++ ':' :: write m.2

theorem Json.intercalate_members (m : String × Json) (ms : List (String × Json)) :
    [','].intercalate ((m :: ms).map writeMember) ++ ['}'] = oneLine.member m ++ oneLine.members ms := by
  have here (m : String × Json) : oneLine.member m = writeMember m := by
    simp [Layout.member, oneLine, writeMember]
  induction ms generalizing m with
  | nil => rw [here, List.map_singleton, List.intercalate_singleton]; rfl
  | cons n ms ih =>
      have tail := ih n
      rw [List.map_cons] at tail
      rw [List.map_cons, List.map_cons, List.intercalate_cons_cons, List.append_assoc, List.append_assoc, tail, here]
      rfl

theorem Json.write_entries (ms : List (String × Json)) :
    write (.object ms) = '{' :: ([','].intercalate (ms.map writeMember) ++ ['}']) := by
  rw [write_object]
  cases ms with
  | nil => rfl
  | cons m ms =>
      rw [intercalate_members]
      rfl

namespace Account

/-! ### What is told -/

mutual

/-- What an account tells, its members in the order in which they are told. -/
def told : Account → Except String Json
  | .text s => .ok (.string s)
  | .list items => (toldItems items).map .array
  | .map entries => (toldEntries entries).map .object

def toldItems : List Account → Except String (List Json)
  | [] => .ok []
  | a :: rest =>
    match told a with
    | .error e => .error e
    | .ok v => (toldItems rest).map (v :: ·)

def toldEntries : List (Account × Account) → Except String (List (String × Json))
  | [] => .ok []
  | (key, a) :: rest =>
    match key.asKey with
    | .error e => .error e
    | .ok name =>
      match told a with
      | .error e => .error e
      | .ok v => (toldEntries rest).map ((name, v) :: ·)

end

mutual

/-- The text of an account is the text of what it tells. -/
theorem write_eq (a : Account) : a.write = a.told.map Json.write := by
  cases a with
  | text s => rfl
  | list items =>
      rw [write, told, writeItems_eq items]
      cases toldItems items with
      | error e => rfl
      | ok xs => exact congrArg Except.ok (write_items xs).symm
  | map entries =>
      rw [write, told, writeEntries_eq entries]
      cases toldEntries entries with
      | error e => rfl
      | ok ms => exact congrArg Except.ok (write_entries ms).symm

theorem writeItems_eq (items : List Account) :
    writeItems items = (toldItems items).map (List.map Json.write) := by
  cases items with
  | nil => rfl
  | cons a rest =>
      rw [writeItems, toldItems, write_eq a, writeItems_eq rest]
      cases told a with
      | error e => rfl
      | ok v => cases toldItems rest <;> rfl

theorem writeEntries_eq (entries : List (Account × Account)) :
    writeEntries entries = (toldEntries entries).map (List.map writeMember) := by
  cases entries with
  | nil => rfl
  | cons entry rest =>
      rcases entry with ⟨key, a⟩
      rw [writeEntries, toldEntries, write_eq a, writeEntries_eq rest]
      cases key.asKey with
      | error e => rfl
      | ok name =>
          cases told a with
          | error e => rfl
          | ok v => cases toldEntries rest <;> rfl

end

mutual

/-- The value of an account is what it tells, settled. -/
theorem value_eq (a : Account) : a.value = a.told.map settled := by
  cases a with
  | text s => rfl
  | list items =>
      rw [value, told, valueItems_eq items]
      cases toldItems items <;> rfl
  | map entries =>
      rw [value, told, valueEntries_eq [] entries]
      cases toldEntries entries <;> rfl

theorem valueItems_eq (items : List Account) : valueItems items = (toldItems items).map settledItems := by
  cases items with
  | nil => rfl
  | cons a rest =>
      rw [valueItems, toldItems, value_eq a, valueItems_eq rest]
      cases told a with
      | error e => rfl
      | ok v => cases toldItems rest <;> rfl

theorem valueEntries_eq (members : Dict Json) (entries : List (Account × Account)) :
    valueEntries members entries =
      (toldEntries entries).map fun ms => (settledMembers ms).foldl (fun d m => d.insert m.1 m.2) members := by
  cases entries with
  | nil => rfl
  | cons entry rest =>
      rcases entry with ⟨key, a⟩
      rw [valueEntries, toldEntries, value_eq a]
      cases key.asKey with
      | error e => rfl
      | ok name =>
          cases told a with
          | error e => rfl
          | ok v =>
              change valueEntries (members.insert name v.settled) rest = _
              rw [valueEntries_eq (members.insert name v.settled) rest]
              cases toldEntries rest <;> rfl

end

/-- An account that tells something not too deep is taken down in both ways, and its text is read as its value
before it is settled. -/
theorem taken_down {a : Account} {j : Json} (tells : a.told = .ok j) (plain : Plain maxDepth j) :
    a.write = .ok j.write ∧ a.value = .ok j.settled ∧ parse j.compact = .ok j := by
  rw [write_eq, value_eq, tells]
  exact ⟨rfl, rfl, parse_compact plain⟩

example : (map [(.text "a", .text "b"), (.list [], .text "c")]).value = .error "key must be a string" := rfl

end Account

end SpokenIntent
