/-!
Identifiers of sessions: 32 lower case hexadecimal digits, drawn at random.
-/

namespace SpokenIntent

def randomDigits : Nat → StdGen → List Char
  | 0, _ => []
  | n + 1, g =>
    let (d, g) := randNat g 0 15
    Nat.digitChar d :: randomDigits n g

def sessionId (seed n : Nat) : String :=
  String.ofList (randomDigits 32 (mkStdGen (seed + n)))

end SpokenIntent
