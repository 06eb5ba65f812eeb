import SpokenIntent.Dict
import SpokenIntent.Text.Alphanumeric
import SpokenIntent.Text.Blank
import SpokenIntent.Text.Lowercase

/-!
Phrase patterns with placeholders. A pattern is a sequence of words, some of them names in braces.
It matches a whole utterance: a plain word stands for one spoken word, compared without case and
without the punctuation around it, and a placeholder for one word or more, kept as spoken.
-/

namespace SpokenIntent

/-- Whether a character is trimmed off the edges of a word: all but letters, numbers and the
apostrophe. -/
def isEdge (c : Char) : Bool :=
  !Text.isAlphanumeric c && c != '\''

def trimEdges (word : String) : String :=
  String.ofList (Text.dropEnds isEdge word.toList)

def normalizeWord (word : String) : String :=
  Text.lower (trimEdges word)

inductive Segment where
  | word (normal : String)
  | entity (name : String)
  deriving DecidableEq

/-- The name that `token` has between braces, if it is written so and the name is not empty. -/
def placeholder? (token : String) : Option String :=
  match token.toList with
  | '{' :: rest =>
    match rest.reverse with
    | '}' :: c :: back => some (String.ofList (c :: back).reverse)
    | _ => none
  | _ => none

def Segment.ofToken? (token : String) : Option Segment :=
  match placeholder? token with
  | some name => some (.entity name)
  | none =>
    let normal := normalizeWord token
    if normal.isEmpty then none else some (.word normal)

structure Pattern where
  source : String
  segments : List Segment
  deriving DecidableEq

/-- A spoken word: in the form in which words are compared, and as it was said. -/
structure Spoken where
  normal : String
  said : String
  deriving DecidableEq

def spokenWords (utterance : String) : List Spoken :=
  ((Text.words utterance).map fun w => ⟨normalizeWord w, trimEdges w⟩).filter
    fun s => !s.normal.isEmpty

namespace Pattern

def parse (source : String) : Pattern :=
  ⟨source, (Text.words source).filterMap Segment.ofToken?⟩

/-- Captures for a placeholder: the shortest run of words after which `rest` fits. `taken` are the
words already in the run. -/
def capture (rest : List Spoken → Option (List (String × String))) (name : String) :
    List String → List Spoken → Option (List (String × String))
  | _, [] => none
  | taken, w :: ws =>
    let taken := taken ++ [w.said]
    match rest ws with
    | some found => some ((name, Text.unwords taken) :: found)
    | none => capture rest name taken ws

/-- Fits segments to words, all of both, and lists what the placeholders capture. -/
def fit : List Segment → List Spoken → Option (List (String × String))
  | [], [] => some []
  | [], _ :: _ => none
  | .word normal :: segments, words =>
    match words with
    | [] => none
    | w :: words => if w.normal = normal then fit segments words else none
  | .entity name :: segments, words => capture (fit segments) name [] words

/-- Matches a whole utterance. Of placeholders with the same name the last one counts. -/
def matches? (p : Pattern) (utterance : String) : Option (Dict String) :=
  let words := spokenWords utterance
  if p.segments.isEmpty || words.isEmpty then none
  else (fit p.segments words).map Dict.ofList

end Pattern

end SpokenIntent
