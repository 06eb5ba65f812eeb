/-!
Blank characters, and what is cut along them: trimming a text and splitting it into words. A blank
is a character with the Unicode property White_Space.
-/

namespace SpokenIntent.Text

def isBlank (c : Char) : Bool :=
  let n := c.toNat
  (0x9 ≤ n && n ≤ 0xD) || n == 0x20 || n == 0x85 || n == 0xA0 || n == 0x1680 ||
    (0x2000 ≤ n && n ≤ 0x200A) || n == 0x2028 || n == 0x2029 || n == 0x202F || n == 0x205F ||
    n == 0x3000

/-- Drops the longest tail whose characters all satisfy `p`. -/
def dropTail (p : Char → Bool) (cs : List Char) : List Char :=
  (cs.reverse.dropWhile p).reverse

def dropEnds (p : Char → Bool) (cs : List Char) : List Char :=
  dropTail p (cs.dropWhile p)

def trim (s : String) : String :=
  String.ofList (dropEnds isBlank s.toList)

def isBlankText (s : String) : Bool :=
  s.toList.all isBlank

/-- The maximal runs of characters that are not blank. -/
def splitBlank : List Char → List (List Char)
  | [] => []
  | c :: rest =>
    if isBlank c then splitBlank rest
    else
      match rest with
      | [] => [[c]]
      | d :: _ =>
        if isBlank d then [c] :: splitBlank rest
        else
          match splitBlank rest with
          | [] => [[c]]
          | word :: more => (c :: word) :: more

def words (s : String) : List String :=
  (splitBlank s.toList).map String.ofList

def unwords (ws : List String) : String :=
  " ".intercalate ws

end SpokenIntent.Text
