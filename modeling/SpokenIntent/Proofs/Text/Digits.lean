import Mathlib.Data.List.Induction
import SpokenIntent.Text.Digits

/-!
Runs of digits and the numbers that they denote. A run denotes one number, whatever zeros it begins with, and is
read as that number; the decimal digits of a number denote it.
-/

namespace SpokenIntent.Text

/-- A run of digits and the number that it denotes: a digit more makes ten times as much and that digit. -/
inductive Denotes : List Char → Nat → Prop where
  | one {d : Nat} (small : d < 10) : Denotes [d.digitChar] d
  | more {run : List Char} {n d : Nat} (high : Denotes run n) (small : d < 10) :
      Denotes (run ++ [d.digitChar]) (10 * n + d)

/-! ### Single digits -/

theorem isDigit_iff (c : Char) : isDigit c = true ↔ 48 ≤ c.toNat ∧ c.toNat ≤ 57 :=
  Bool.and_eq_true_iff.trans (and_congr decide_eq_true_iff decide_eq_true_iff)

theorem digitValue_digitChar {d : Nat} (small : d < 10) : digitValue d.digitChar = d :=
  Nat.toNat_digitChar_sub_48_of_lt_ten small

theorem isDigit_digitChar {d : Nat} (small : d < 10) : isDigit d.digitChar = true := by
  apply (isDigit_iff _).mpr
  rw [Nat.toNat_digitChar_of_lt_ten small]
  omega

/-- Every digit is the digit of a number below ten. -/
theorem exists_digitChar {c : Char} (digit : isDigit c = true) : ∃ d < 10, c = d.digitChar := by
  obtain ⟨low, high⟩ := (isDigit_iff c).mp digit
  have small : c.toNat - 48 < 10 := by omega
  refine ⟨c.toNat - 48, small, ?_⟩
  apply Char.toNat_inj.mp
  rw [Nat.toNat_digitChar_of_lt_ten small]
  omega

theorem digitless_iff {cs : List Char} : (∀ c ∈ cs, isDigit c = false) ↔ cs.any isDigit = false := by
  simp

/-! ### Runs -/

theorem ofDigits_snoc (cs : List Char) (c : Char) : ofDigits (cs ++ [c]) = 10 * ofDigits cs + digitValue c := by
  simp [ofDigits]

variable {run : List Char} {n : Nat}

theorem Denotes.ne_nil (denotes : Denotes run n) : run ≠ [] := by
  cases denotes <;> simp

theorem Denotes.digits (denotes : Denotes run n) : ∀ c ∈ run, isDigit c = true := by
  induction denotes with
  | one small => simp [isDigit_digitChar small]
  | more high small ih =>
      intro c member
      rcases List.mem_append.mp member with earlier | last
      · exact ih c earlier
      · rw [List.mem_singleton.mp last]
        exact isDigit_digitChar small

theorem Denotes.value (denotes : Denotes run n) : ofDigits run = n := by
  induction denotes with
  | one small => simp [ofDigits, digitValue_digitChar small]
  | more high small ih => rw [ofDigits_snoc, ih, digitValue_digitChar small]

theorem denotes_of_digits (some : run ≠ []) (digits : ∀ c ∈ run, isDigit c = true) :
    Denotes run (ofDigits run) := by
  induction run using List.reverseRecOn with
  | nil => exact absurd rfl some
  | append_singleton rest c ih =>
      obtain ⟨d, small, rfl⟩ := exists_digitChar (digits c (by simp))
      by_cases first : rest = []
      · subst first
        rw [List.nil_append, ofDigits, List.foldl_cons, List.foldl_nil, digitValue_digitChar small]
        simpa using Denotes.one small
      · rw [ofDigits_snoc, digitValue_digitChar small]
        apply Denotes.more (ih first _) small
        intro c member
        exact digits c (List.mem_append_left _ member)

theorem Denotes.unique {m : Nat} (denotes : Denotes run n) (denotes' : Denotes run m) : n = m :=
  denotes.value.symm.trans denotes'.value

/-- What is read is what is denoted, if that is in bounds. -/
theorem readBelow_eq_some {bound : Nat} : readBelow bound run = some n ↔ Denotes run n ∧ n < bound := by
  rw [readBelow]
  constructor
  · intro read
    split at read
    · cases read
    · next written =>
      simp only [Bool.or_eq_true, List.isEmpty_iff, Bool.not_eq_true', not_or, Bool.not_eq_false,
        List.all_eq_true] at written
      split at read
      · next below =>
        cases read
        exact ⟨denotes_of_digits written.1 written.2, below⟩
      · cases read
  · rintro ⟨denotes, below⟩
    have digits : run.all isDigit = true := List.all_eq_true.mpr denotes.digits
    simp [denotes.ne_nil, digits, denotes.value, below]

theorem Denotes.readBelow_eq (denotes : Denotes run n) (bound : Nat) :
    readBelow bound run = if n < bound then some n else none := by
  split
  · next below => exact readBelow_eq_some.mpr ⟨denotes, below⟩
  · next beyond =>
    apply Option.eq_none_iff_forall_ne_some.mpr
    intro m read
    obtain ⟨denotes', below⟩ := readBelow_eq_some.mp read
    exact beyond (denotes.unique denotes' ▸ below)

/-- A sign may come first, but in a run there is none. -/
theorem Denotes.readSignedBelow_eq (denotes : Denotes run n) (bound : Nat) :
    readSignedBelow bound (String.ofList run) = if n < bound then some n else none := by
  rw [readSignedBelow, String.toList_ofList]
  split
  · next rest =>
    have sign := denotes.digits '+' List.mem_cons_self
    exact absurd sign (by decide)
  · exact denotes.readBelow_eq bound

theorem toDigits_denotes (n : Nat) : Denotes (Nat.toDigits 10 n) n := by
  induction n using Nat.strongRecOn with
  | ind n ih =>
      by_cases small : n < 10
      · rw [Nat.toDigits_of_lt_base small]
        exact .one small
      · rw [Nat.toDigits_of_base_le (by decide) (Nat.le_of_not_lt small)]
        have high := ih (n / 10) (by omega)
        have whole := high.more (Nat.mod_lt n (by decide : 0 < 10))
        rwa [Nat.div_add_mod] at whole

end SpokenIntent.Text
