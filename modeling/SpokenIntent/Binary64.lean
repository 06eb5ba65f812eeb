/-!
Binary floating point numbers of 64 bits, held as their bits. Sums are not needed here: what is
needed is equality, the number nearest to a ratio of naturals, and scaling by a power of ten.
-/

namespace SpokenIntent

structure Binary64 where
  bits : UInt64
  deriving DecidableEq

namespace Binary64

def twoTo (n : Nat) : Nat := Nat.pow 2 n

def magnitude (x : Binary64) : Nat := x.bits.toNat % twoTo 63

def infinity : Nat := 0x7FF * twoTo 52

def isNaN (x : Binary64) : Bool := infinity < x.magnitude

def isInfinite (x : Binary64) : Bool := x.magnitude == infinity

def isZero (x : Binary64) : Bool := x.magnitude == 0

/-- Numeric equality: a NaN equals nothing, and the two zeros are equal. -/
def eq (x y : Binary64) : Bool :=
  !x.isNaN && !y.isNaN && (x.bits == y.bits || (x.isZero && y.isZero))

def ofMagnitude (n : Nat) : Binary64 := ⟨UInt64.ofNat n⟩

def negate (x : Binary64) : Binary64 := ⟨x.bits ^^^ 0x8000000000000000⟩

/-- Nearest integer to `num / den`, a half going to the even neighbour. -/
def roundHalfEven (num den : Nat) : Nat :=
  let q := num / den
  let r := num % den
  if 2 * r < den then q
  else if den < 2 * r then q + 1
  else if q % 2 = 0 then q else q + 1

/-- The number nearest to `num / den`; `den` is not zero. The quotient is scaled by the power of two
that leaves it 53 bits, or by 2^1074 where that is less; beyond the largest finite number the
result is infinite. -/
def ofRatio (num den : Nat) : Binary64 :=
  if num = 0 then ofMagnitude 0
  else
    let guess : Int := 52 + den.log2 - num.log2
    let fits (shift : Int) : Bool :=
      twoTo 52 * den * twoTo (-shift).toNat ≤ num * twoTo shift.toNat
    let normal : Int := if fits guess then guess else guess + 1
    let shift : Int := min normal 1074
    let mantissa := roundHalfEven (num * twoTo shift.toNat) (den * twoTo (-shift).toNat)
    let bits : Int := (1074 - shift) * twoTo 52 + mantissa
    ofMagnitude (min bits.toNat infinity)

/-- Numerator and denominator of a finite number, its sign left aside. -/
def toRatio (x : Binary64) : Nat × Nat :=
  let exponent := x.magnitude / twoTo 52
  let fraction := x.magnitude % twoTo 52
  if exponent = 0 then (fraction, twoTo 1074)
  else ((twoTo 52 + fraction) * twoTo (exponent - 1075), twoTo (1075 - exponent))

def mul (x y : Binary64) : Binary64 :=
  let (a, b) := x.toRatio
  let (c, d) := y.toRatio
  ofRatio (a * c) (b * d)

/-- The quotient of two magnitudes, rounded; `y` is not zero. -/
def div (x y : Binary64) : Binary64 :=
  let (a, b) := x.toRatio
  let (c, d) := y.toRatio
  ofRatio (a * d) (b * c)

def powerOfTen (n : Nat) : Binary64 := ofRatio (Nat.pow 10 n) 1

def maxPower : Nat := 308

/-- Scales a magnitude by `10 ^ exponent`, one rounded step for each factor of at most `10 ^ 308`.
Nothing when the result is not finite. -/
def scale (x : Binary64) (exponent : Int) : Nat → Option Binary64
  | 0 => some x
  | fuel + 1 =>
    if exponent.natAbs ≤ maxPower then
      if 0 ≤ exponent then
        let y := x.mul (powerOfTen exponent.natAbs)
        if y.isInfinite then none else some y
      else some (x.div (powerOfTen exponent.natAbs))
    else if x.isZero then some x
    else if 0 ≤ exponent then none
    else scale (x.div (powerOfTen maxPower)) (exponent + maxPower) fuel

/-- `significand * 10 ^ exponent`, the significand rounded before it is scaled. A number divided by
`10 ^ 308` three times is zero, so the steps are few. -/
def ofScientific (significand : Nat) (exponent : Int) : Option Binary64 :=
  scale (ofRatio significand 1) exponent 8

end Binary64

end SpokenIntent
