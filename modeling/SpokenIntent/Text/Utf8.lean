/-!
Reading text from bytes. A byte sequence is text when it is well-formed UTF-8; otherwise the first
place where it fails is reported, with the number of bytes that belong to the failed sequence.
-/

namespace SpokenIntent.Text

/-- Where bytes stop being text. Without a length the bytes end inside a character. -/
structure Utf8Fault where
  index : Nat
  length : Option Nat
  deriving DecidableEq

def Utf8Fault.message (fault : Utf8Fault) : String :=
  match fault.length with
  | some n => s!"invalid utf-8 sequence of {n} bytes from index {fault.index}"
  | none => s!"incomplete utf-8 byte sequence from index {fault.index}"

/-- What a lead byte announces: how many bytes continue the character, the bits it gives, and the
range of the byte that comes next. -/
structure Utf8Lead where
  more : Nat
  bits : Nat
  low : Nat
  high : Nat

def utf8Lead? (b : Nat) : Option Utf8Lead :=
  if b < 0x80 then some ⟨0, b, 0x80, 0xBF⟩
  else if b < 0xC2 then none
  else if b < 0xE0 then some ⟨1, b - 0xC0, 0x80, 0xBF⟩
  else if b < 0xF0 then
    some ⟨2, b - 0xE0, if b = 0xE0 then 0xA0 else 0x80, if b = 0xED then 0x9F else 0xBF⟩
  else if b < 0xF5 then
    some ⟨3, b - 0xF0, if b = 0xF0 then 0x90 else 0x80, if b = 0xF4 then 0x8F else 0xBF⟩
  else none

/-- What follows a lead byte: the code point with the remaining bytes, or the number of bytes of a
sequence that breaks off, absent where the bytes end. `taken` counts the bytes already read. -/
def utf8Tail (taken bits : Nat) (low high : Nat) : Nat → List UInt8 →
    Except (Option Nat) (Nat × List UInt8)
  | 0, rest => .ok (bits, rest)
  | _ + 1, [] => .error none
  | more + 1, b :: rest =>
    if low ≤ b.toNat && b.toNat ≤ high then
      utf8Tail (taken + 1) (bits * 64 + (b.toNat - 0x80)) 0x80 0xBF more rest
    else .error (some taken)

/-- Reads characters until the bytes are used up; every character takes at least one byte, so `fuel`
bytes suffice for as many steps. -/
def readUtf8From (index : Nat) : Nat → List UInt8 → Except Utf8Fault (List Char)
  | _, [] => .ok []
  | 0, _ :: _ => .ok []
  | fuel + 1, b :: rest =>
    match utf8Lead? b.toNat with
    | none => .error ⟨index, some 1⟩
    | some lead =>
      match utf8Tail 1 lead.bits lead.low lead.high lead.more rest with
      | .error length => .error ⟨index, length⟩
      | .ok (n, after) =>
        match readUtf8From (index + 1 + lead.more) fuel after with
        | .error fault => .error fault
        | .ok cs => .ok (Char.ofNat n :: cs)

def readUtf8 (bytes : List UInt8) : Except Utf8Fault String :=
  match readUtf8From 0 bytes.length bytes with
  | .error fault => .error fault
  | .ok cs => .ok (String.ofList cs)

end SpokenIntent.Text
