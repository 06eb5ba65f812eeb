/-!
Natural numbers in decimal digits, read and written.
-/

namespace SpokenIntent.Text

def isDigit (c : Char) : Bool :=
  '0' ≤ c && c ≤ '9'

def digitValue (c : Char) : Nat :=
  c.toNat - '0'.toNat

/-- The number that a run of digits denotes; leading zeros count for nothing. -/
def ofDigits (cs : List Char) : Nat :=
  cs.foldl (fun n c => 10 * n + digitValue c) 0

/-- A natural number below `bound`, written with at least one digit and nothing but digits. -/
def readBelow (bound : Nat) (cs : List Char) : Option Nat :=
  if cs.isEmpty || !cs.all isDigit then none
  else if ofDigits cs < bound then some (ofDigits cs) else none

/-- A natural number below `bound`, where a plus sign may come first. -/
def readSignedBelow (bound : Nat) (s : String) : Option Nat :=
  match s.toList with
  | '+' :: rest => readBelow bound rest
  | cs => readBelow bound cs

def decimal (n : Nat) : String :=
  String.ofList (Nat.toDigits 10 n)

end SpokenIntent.Text
