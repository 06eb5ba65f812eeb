import SpokenIntent.Json.Value

/-!
Equality of binary numbers, which NaN alone is left out of, and the numbers that can be written: what is computed
from digits may be infinite, but is never NaN.
-/

namespace SpokenIntent

namespace Binary64

/-! ### Equality -/

theorem eq_comm (x y : Binary64) : x.eq y = y.eq x := by
  rw [Bool.eq_iff_iff]
  simp only [eq, Bool.and_eq_true, Bool.or_eq_true, beq_iff_eq, Bool.not_eq_true']
  constructor <;> rintro ⟨⟨here, there⟩, same | ⟨zero, zero'⟩⟩
  · exact ⟨⟨there, here⟩, .inl same.symm⟩
  · exact ⟨⟨there, here⟩, .inr ⟨zero', zero⟩⟩
  · exact ⟨⟨there, here⟩, .inl same.symm⟩
  · exact ⟨⟨there, here⟩, .inr ⟨zero', zero⟩⟩

theorem eq_self (x : Binary64) : x.eq x = !x.isNaN := by
  simp [eq]

theorem isZero_of_bits {x y : Binary64} (same : x.bits = y.bits) : x.isZero = y.isZero := by
  rw [isZero, isZero, magnitude, magnitude, same]

/-- The two zeros are equal to each other and to nothing else, so equality goes on through them. -/
theorem eq_trans {x y z : Binary64} (first : x.eq y = true) (second : y.eq z = true) : x.eq z = true := by
  simp only [eq, Bool.and_eq_true, Bool.or_eq_true, beq_iff_eq, Bool.not_eq_true'] at first second ⊢
  rcases first with ⟨⟨here, -⟩, same⟩
  rcases second with ⟨⟨-, there⟩, same'⟩
  refine ⟨⟨here, there⟩, ?_⟩
  rcases same with same | ⟨zero, middle⟩
  · rcases same' with same' | ⟨middle, zero'⟩
    · exact .inl (same.trans same')
    · exact .inr ⟨(isZero_of_bits same).trans middle, zero'⟩
  · rcases same' with same' | ⟨-, zero'⟩
    · exact .inr ⟨zero, (isZero_of_bits same').symm.trans middle⟩
    · exact .inr ⟨zero, zero'⟩

/-! ### Numbers that are computed -/

theorem ofMagnitude_clean {n : Nat} (bounded : n ≤ infinity) : (ofMagnitude n).isNaN = false := by
  have small : n < twoTo 63 := Nat.lt_of_le_of_lt bounded (by decide)
  have fits : n < UInt64.size := Nat.lt_trans small (by decide)
  have kept : (ofMagnitude n).magnitude = n := by
    rw [magnitude, ofMagnitude, UInt64.toNat_ofNat_of_lt' fits]
    exact Nat.mod_eq_of_lt small
  rw [isNaN, kept]
  exact decide_eq_false (Nat.not_lt.mpr bounded)

/-- A change of sign leaves the magnitude alone. -/
theorem negate_isNaN (x : Binary64) : x.negate.isNaN = x.isNaN := by
  have below (a b : Nat) : (a ^^^ b) % twoTo 63 = a % twoTo 63 ^^^ b % twoTo 63 := @Nat.xor_mod_two_pow a b 63
  have sign : (0x8000000000000000 : UInt64).toNat % twoTo 63 = 0 := by decide
  have kept : x.negate.magnitude = x.magnitude := by
    rw [magnitude, negate, UInt64.toNat_xor, below, sign, Nat.xor_zero, magnitude]
  rw [isNaN, isNaN, kept]

theorem ofRatio_clean (num den : Nat) : (ofRatio num den).isNaN = false := by
  rw [ofRatio]
  split
  · exact ofMagnitude_clean (Nat.zero_le _)
  · exact ofMagnitude_clean (Nat.min_le_right _ _)

theorem scale_clean {x y : Binary64} {exponent : Int} {fuel : Nat} (clean : x.isNaN = false)
    (scaled : x.scale exponent fuel = some y) : y.isNaN = false := by
  induction fuel generalizing x exponent with
  | zero =>
      cases scaled
      exact clean
  | succ fuel ih =>
      rw [scale] at scaled
      split at scaled
      · split at scaled
        · simp only [Option.ite_none_left_eq_some, Option.some.injEq] at scaled
          rw [← scaled.2]
          exact ofRatio_clean _ _
        · cases scaled
          exact ofRatio_clean _ _
      · split at scaled
        · cases scaled
          exact clean
        · split at scaled
          · cases scaled
          · exact ih (ofRatio_clean _ _) scaled

theorem ofScientific_clean {significand : Nat} {exponent : Int} {x : Binary64}
    (computed : ofScientific significand exponent = some x) : x.isNaN = false :=
  scale_clean (ofRatio_clean _ _) computed

end Binary64

namespace Numeral

theorem magnitude?_clean {n : Numeral} {x : Binary64} (found : n.magnitude? = some x) : x.isNaN = false := by
  simp only [magnitude?] at found
  split at found
  · exact Binary64.ofScientific_clean found
  · split at found
    · exact Binary64.ofScientific_clean found
    · split at found
      · cases found
        exact Binary64.ofMagnitude_clean (Nat.zero_le _)
      · cases found

/-- Whatever digits are written, they denote a number or an infinity. -/
theorem nearest_clean (n : Numeral) : n.nearest.isNaN = false := by
  have clean : (n.magnitude?.getD (Binary64.ofMagnitude Binary64.infinity)).isNaN = false := by
    cases found : n.magnitude? with
    | none => exact Binary64.ofMagnitude_clean (Nat.le_refl _)
    | some x => exact magnitude?_clean found
  simp only [nearest]
  split
  · rw [Binary64.negate_isNaN, clean]
  · exact clean

end Numeral

end SpokenIntent
