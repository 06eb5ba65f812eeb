import Mathlib.Data.List.Basic
import SpokenIntent.Text.Utf8

/-!
Text from its own bytes: whatever a text is, the bytes of its UTF-8 form are read as that text.
-/

namespace SpokenIntent.Text

/-! ### The bytes of a text -/

theorem toList_loop (bytes : ByteArray) (i : Nat) (before : List UInt8) :
    ByteArray.toList.loop bytes i before = before.reverse ++ bytes.data.toList.drop i := by
  fun_induction ByteArray.toList.loop bytes i before with
  | case1 i before inside ih =>
      have within : i < bytes.data.toList.length := by simpa using inside
      rw [ih, List.drop_eq_getElem_cons within]
      simp [ByteArray.get!, inside]
  | case2 i before outside =>
      rw [List.drop_eq_nil_of_le (by simpa using outside), List.append_nil]

theorem toUTF8_toList (s : String) : s.toUTF8.toList = s.toList.flatMap String.utf8EncodeChar := by
  rw [String.toUTF8_eq_toByteArray, ByteArray.toList, toList_loop]
  conv_lhs => rw [← String.ofList_toList (s := s), String.toByteArray_ofList, List.utf8Encode]
  simp

/-! ### One character -/

/-- A byte that continues a character adds its six bits. -/
theorem utf8Tail_cons {taken bits low high more : Nat} {n : Nat} {rest : List UInt8} (bounded : n < 256)
    (least : low ≤ n) (most : n ≤ high) :
    utf8Tail taken bits low high (more + 1) (UInt8.ofNat n :: rest) =
      utf8Tail (taken + 1) (bits * 64 + (n - 0x80)) 0x80 0xBF more rest := by
  simp [utf8Tail, Nat.mod_eq_of_lt bounded, least, most]

theorem utf8Lead?_two {b : Nat} (least : 0xC2 ≤ b) (most : b < 0xE0) :
    utf8Lead? b = some ⟨1, b - 0xC0, 0x80, 0xBF⟩ := by
  rw [utf8Lead?, if_neg (by omega), if_neg (by omega), if_pos most]

theorem utf8Lead?_three {b : Nat} (least : 0xE0 ≤ b) (most : b < 0xF0) :
    utf8Lead? b = some ⟨2, b - 0xE0, if b = 0xE0 then 0xA0 else 0x80, if b = 0xED then 0x9F else 0xBF⟩ := by
  rw [utf8Lead?, if_neg (by omega), if_neg (by omega), if_neg (by omega), if_pos most]

theorem utf8Lead?_four {b : Nat} (least : 0xF0 ≤ b) (most : b < 0xF5) :
    utf8Lead? b = some ⟨3, b - 0xF0, if b = 0xF0 then 0x90 else 0x80, if b = 0xF4 then 0x8F else 0xBF⟩ := by
  rw [utf8Lead?, if_neg (by omega), if_neg (by omega), if_neg (by omega), if_neg (by omega), if_pos most]

/-- The first byte of a character announces those that follow, and they give its code point. -/
theorem utf8_char (c : Char) : ∃ first tail lead, String.utf8EncodeChar c = first :: tail ∧
    utf8Lead? first.toNat = some lead ∧
    ∀ rest, utf8Tail 1 lead.bits lead.low lead.high lead.more (tail ++ rest) = .ok (c.toNat, rest) := by
  have valid : c.toNat < 0xD800 ∨ (0xDFFF < c.toNat ∧ c.toNat < 0x110000) := c.valid
  have byte {b : Nat} (small : b < 256) : (UInt8.ofNat b).toNat = b := by simpa using small
  rw [String.utf8EncodeChar, show c.val.toNat = c.toNat from rfl]
  generalize c.toNat = v at valid ⊢
  by_cases one : v ≤ 0x7F
  · refine ⟨UInt8.ofNat v, [], ⟨0, v, 0x80, 0xBF⟩, by simp [one], ?_, fun rest => rfl⟩
    rw [byte (by omega), utf8Lead?, if_pos (by omega)]
  by_cases two : v ≤ 0x7FF
  · have announced := utf8Lead?_two (b := v / 64 % 32 + 192) (by omega) (by omega)
    refine ⟨_, _, _, by simp only [one, two, ↓reduceIte]; rfl,
      (congrArg utf8Lead? (byte (by omega))).trans announced, fun rest => ?_⟩
    dsimp only
    rw [List.cons_append, utf8Tail_cons (by omega) (by omega) (by omega), List.nil_append, utf8Tail]
    exact congrArg (fun n => Except.ok (n, rest)) (by omega)
  by_cases three : v ≤ 0xFFFF
  · have announced := utf8Lead?_three (b := v / 4096 % 16 + 224) (by omega) (by omega)
    refine ⟨_, _, _, by simp only [one, two, three, ↓reduceIte]; rfl,
      (congrArg utf8Lead? (byte (by omega))).trans announced, fun rest => ?_⟩
    dsimp only
    rw [List.cons_append, utf8Tail_cons (by omega) (by split <;> omega) (by split <;> omega),
      List.cons_append, utf8Tail_cons (by omega) (by omega) (by omega), List.nil_append, utf8Tail]
    exact congrArg (fun n => Except.ok (n, rest)) (by omega)
  · have announced := utf8Lead?_four (b := v / 262144 % 8 + 240) (by omega) (by omega)
    refine ⟨_, _, _, by simp only [one, two, three, ↓reduceIte]; rfl,
      (congrArg utf8Lead? (byte (by omega))).trans announced, fun rest => ?_⟩
    dsimp only
    rw [List.cons_append, utf8Tail_cons (by omega) (by split <;> omega) (by split <;> omega),
      List.cons_append, utf8Tail_cons (by omega) (by omega) (by omega), List.cons_append,
      utf8Tail_cons (by omega) (by omega) (by omega), List.nil_append, utf8Tail]
    exact congrArg (fun n => Except.ok (n, rest)) (by omega)

/-! ### The whole text -/

theorem readUtf8From_encoded (cs : List Char) (index fuel : Nat)
    (enough : (cs.flatMap String.utf8EncodeChar).length ≤ fuel) :
    readUtf8From index fuel (cs.flatMap String.utf8EncodeChar) = .ok cs := by
  induction cs generalizing index fuel with
  | nil => cases fuel <;> rfl
  | cons c rest ih =>
      obtain ⟨first, tail, lead, bytes, announced, follows⟩ := utf8_char c
      rw [List.flatMap_cons, bytes, List.cons_append] at enough ⊢
      cases fuel with
      | zero => simp at enough
      | succ fuel =>
          simp only [List.length_cons, List.length_append] at enough
          simp only [readUtf8From, announced, follows, Char.ofNat_toNat]
          rw [ih _ _ (by omega)]

/-- The bytes of a text are read as the text. -/
theorem readUtf8_toUTF8 (s : String) : readUtf8 s.toUTF8.toList = .ok s := by
  rw [readUtf8, toUTF8_toList, readUtf8From_encoded _ _ _ (Nat.le_refl _)]
  simp only [String.ofList_toList]

end SpokenIntent.Text
