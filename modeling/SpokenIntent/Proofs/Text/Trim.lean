import Mathlib.Data.List.DropRight
import SpokenIntent.Text.Blank

/-!
What is left when the ends of a text are dropped: a list that neither begins nor ends with a character of
the kind. Such a list is left as it is.
-/

namespace SpokenIntent.Text

variable {p : Char → Bool} {cs ds : List Char}

/-- A list with nothing to drop at its ends. -/
structure Bare (p : Char → Bool) (cs : List Char) : Prop where
  head : ∀ c ∈ cs.head?, p c = false
  last : ∀ c ∈ cs.getLast?, p c = false

theorem dropWhile_head (p : Char → Bool) (cs : List Char) : ∀ c ∈ (cs.dropWhile p).head?, p c = false := by
  intro c first
  have not := List.head?_dropWhile_not p cs
  rwa [show (cs.dropWhile p).head? = some c from first] at not

theorem dropWhile_eq_self (head : ∀ c ∈ cs.head?, p c = false) : cs.dropWhile p = cs := by
  cases cs with
  | nil => rfl
  | cons c rest => simp [head c rfl]

theorem dropTail_front (p : Char → Bool) (cs : List Char) : dropTail p cs <+: cs :=
  List.rdropWhile_prefix p cs

theorem dropTail_append (p : Char → Bool) (cs : List Char) :
    ∃ tail, dropTail p cs ++ tail = cs ∧ ∀ c ∈ tail, p c = true := by
  refine ⟨(cs.reverse.takeWhile p).reverse, ?_, ?_⟩
  · rw [dropTail, ← List.reverse_append, List.takeWhile_append_dropWhile, List.reverse_reverse]
  · intro c member
    exact List.mem_takeWhile_imp (List.mem_reverse.mp member)

theorem dropTail_last (p : Char → Bool) (cs : List Char) : ∀ c ∈ (dropTail p cs).getLast?, p c = false := by
  rw [dropTail, List.getLast?_reverse]
  exact dropWhile_head p cs.reverse

/-- Dropping stops at a character that is not of the kind. -/
theorem dropTail_break {c : Char} (stops : p c = false) (before after : List Char) :
    dropTail p (before ++ c :: after) = before ++ c :: dropTail p after := by
  have whole : (after.reverse ++ [c]).dropWhile p = after.reverse.dropWhile p ++ [c] := by
    rw [List.dropWhile_append]
    split
    · next none =>
      rw [List.isEmpty_iff] at none
      simp [none, stops]
    · rfl
  have more : (after.reverse ++ [c] ++ before.reverse).dropWhile p =
      after.reverse.dropWhile p ++ [c] ++ before.reverse := by
    rw [List.dropWhile_append, whole]
    simp
  rw [dropTail, List.reverse_append, List.reverse_cons, more]
  simp [dropTail]

theorem dropTail_eq_self (last : ∀ c ∈ cs.getLast?, p c = false) : dropTail p cs = cs := by
  rw [dropTail, dropWhile_eq_self (by rwa [List.head?_reverse]), List.reverse_reverse]

/-- A tail that is not empty has become shorter. -/
theorem dropTail_length {c : Char} (last : cs.getLast? = some c) (holds : p c = true) :
    (dropTail p cs).length < cs.length := by
  apply lt_of_le_of_ne (dropTail_front p cs).length_le
  intro same
  have kept : dropTail p cs = cs := (dropTail_front p cs).eq_of_length same
  have never := dropTail_last p cs c (by rwa [kept])
  simp [holds] at never

/-- Dropping a tail does not bare the head of a list. -/
theorem head_of_front (front : cs <+: ds) : ∀ c ∈ cs.head?, c ∈ ds.head? := by
  obtain ⟨rest, rfl⟩ := front
  cases cs <;> simp

theorem dropEnds_bare (p : Char → Bool) (cs : List Char) : Bare p (dropEnds p cs) where
  head c first := dropWhile_head p cs c (head_of_front (dropTail_front p _) c first)
  last := dropTail_last p _

theorem dropEnds_eq_self (bare : Bare p cs) : dropEnds p cs = cs := by
  rw [dropEnds, dropWhile_eq_self bare.head, dropTail_eq_self bare.last]

/-- Nothing is left when all is of the kind. -/
theorem dropEnds_eq_nil : dropEnds p cs = [] ↔ ∀ c ∈ cs, p c = true := by
  rw [dropEnds, dropTail, List.reverse_eq_nil_iff, List.dropWhile_eq_nil_iff]
  constructor
  · intro kept c member
    -- a character at which dropping stops would not be of the kind
    have none : cs.dropWhile p = [] := by
      cases left : cs.dropWhile p with
      | nil => rfl
      | cons d rest =>
          have stops := dropWhile_head p cs d (by simp [left])
          rw [kept d (by simp [left])] at stops
          cases stops
    exact List.dropWhile_eq_nil_iff.mp none c member
  · intro kind c member
    exact kind c ((List.dropWhile_sublist p).subset (List.mem_reverse.mp member))

/-- What would be dropped anyway may come after a text, or not. -/
theorem dropTail_surplus (surplus : ∀ c ∈ ds, p c = true) : dropTail p (cs ++ ds) = dropTail p cs := by
  rw [dropTail, List.reverse_append, List.dropWhile_append_of_pos (by simpa using surplus), dropTail]

theorem dropEnds_surplus {before after : List Char} (early : ∀ c ∈ before, p c = true)
    (late : ∀ c ∈ after, p c = true) : dropEnds p (before ++ (cs ++ after)) = dropEnds p cs := by
  rw [dropEnds, List.dropWhile_append_of_pos early, List.dropWhile_append]
  split
  · next none =>
    rw [List.isEmpty_iff] at none
    rw [List.dropWhile_eq_nil_iff.mpr late, dropEnds, none]
  · rw [dropTail_surplus late, dropEnds]

theorem dropEnds_parts (p : Char → Bool) (cs : List Char) :
    ∃ before after, before ++ (dropEnds p cs ++ after) = cs ∧ (∀ c ∈ before, p c = true) ∧
      ∀ c ∈ after, p c = true := by
  obtain ⟨after, parts, late⟩ := dropTail_append p (cs.dropWhile p)
  refine ⟨cs.takeWhile p, after, ?_, fun c member => List.mem_takeWhile_imp member, late⟩
  rw [dropEnds, parts, List.takeWhile_append_dropWhile]

theorem trim_isEmpty (s : String) : (trim s).isEmpty = isBlankText s := by
  rw [Bool.eq_iff_iff, String.isEmpty_iff, ← String.toList_eq_nil_iff, trim, String.toList_ofList,
    dropEnds_eq_nil, isBlankText, List.all_eq_true]

@[simp] theorem trim_trim (s : String) : trim (trim s) = trim s := by
  rw [trim, trim, String.toList_ofList, dropEnds_eq_self (dropEnds_bare isBlank s.toList)]

end SpokenIntent.Text
