import SpokenIntent.Text.Blank
import SpokenIntent.Text.Digits
import SpokenIntent.Text.Lowercase

/-!
Utterances as they are compared with command keys, and the numbers in them. Recognizers end
sentences with a period and spell small numbers out.
-/

namespace SpokenIntent

/-- Lower case, without the periods at the end and the blanks around. -/
def normalizeUtterance (text : String) : String :=
  let trimmed := Text.dropEnds Text.isBlank text.toList
  let ended := Text.dropTail Text.isBlank (Text.dropTail (· == '.') trimmed)
  String.ofList (Text.lowerAfter [] ended)

def numberWords : List String :=
  ["zero", "one", "two", "three", "four", "five", "six", "seven", "eight", "nine"]

def wordToNumber? (word : String) : Option Nat :=
  let n := numberWords.idxOf (Text.lower (Text.trim word))
  if n < numberWords.length then some n else none

/-- Numbers are below this bound. -/
def numberBound : Nat := Nat.pow 2 32

def firstDigits (cs : List Char) : List Char :=
  (cs.dropWhile fun c => !Text.isDigit c).takeWhile Text.isDigit

/-- A number word by itself, or else the first run of digits; a run that denotes a number out of
bounds gives nothing. -/
def spokenNumber? (text : String) : Option Nat :=
  match wordToNumber? text with
  | some n => some n
  | none => Text.readBelow numberBound (firstDigits text.toList)

end SpokenIntent
