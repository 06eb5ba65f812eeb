import SpokenIntent.Binary64
import SpokenIntent.Dict
import SpokenIntent.Text.Digits

/-!
JSON values. Numbers keep their written digits, and objects keep their members in the order in
which they are written, so that a value says exactly what its text said.
-/

namespace SpokenIntent

/-- A number as written: sign, digits before and after the point, and the exponent, whose flag is
set when it is negative. An empty fraction stands for no point. -/
structure Numeral where
  negative : Bool
  whole : List Char
  fraction : List Char
  exponent : Option (Bool × List Char)
  deriving DecidableEq

inductive Json where
  | null
  | bool (b : Bool)
  | number (n : Numeral)
  | string (s : String)
  | array (items : List Json)
  | object (members : List (String × Json))

instance : Inhabited Json := ⟨.null⟩

namespace Numeral

def ofNat (n : Nat) : Numeral :=
  ⟨false, Nat.toDigits 10 n, [], none⟩

def toList (n : Numeral) : List Char :=
  (if n.negative then ['-'] else []) ++ n.whole ++
    (if n.fraction.isEmpty then [] else '.' :: n.fraction) ++
    (match n.exponent with
    | none => []
    | some (negative, digits) => 'e' :: ((if negative then ['-'] else []) ++ digits))

/-- The bound on a significand: digits are gathered as long as they fit 64 bits. -/
def significandBound : Nat := Nat.pow 2 64

/-- Appends digits to a significand until one no longer fits. The second part counts those that
did. -/
def gather (significand : Nat) : List Char → Nat × Nat
  | [] => (significand, 0)
  | c :: rest =>
    if significand * 10 + digitValue c < significandBound then
      let (total, used) := gather (significand * 10 + digitValue c) rest
      (total, used + 1)
    else (significand, 0)
where
  digitValue := Text.digitValue

/-- The significand and the power of ten that scales it, without the written exponent. -/
def scientific (n : Numeral) : Nat × Int :=
  let (high, usedWhole) := gather 0 n.whole
  let (all, usedFraction) := gather high n.fraction
  (all, (n.whole.length - usedWhole : Nat) - (usedFraction : Nat))

/-- The largest exponent that is taken at its word. -/
def maxExponent : Nat := Nat.pow 2 31 - 1

/-- The size of the number, nothing if it is too large. An exponent beyond `maxExponent` makes it
zero or too large at once. -/
def magnitude? (n : Numeral) : Option Binary64 :=
  let (significand, shift) := n.scientific
  match n.exponent with
  | none => Binary64.ofScientific significand shift
  | some (negative, digits) =>
    let e := Text.ofDigits digits
    if e ≤ maxExponent then
      Binary64.ofScientific significand (if negative then shift - e else shift + e)
    else if significand = 0 || negative then some (Binary64.ofMagnitude 0)
    else none

def inRange (n : Numeral) : Bool := n.magnitude?.isSome

/-- The binary number that a numeral denotes, infinite if it is out of range. -/
def nearest (n : Numeral) : Binary64 :=
  let x := n.magnitude?.getD (Binary64.ofMagnitude Binary64.infinity)
  if n.negative then x.negate else x

end Numeral

namespace Json

/-- The member of an object; of two with the same name the later one counts. -/
def get? (key : String) : Json → Option Json
  | .object members => Dict.get? key (Dict.ofList members)
  | _ => none

end Json

end SpokenIntent
