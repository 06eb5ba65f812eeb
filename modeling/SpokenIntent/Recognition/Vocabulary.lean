import SpokenIntent.Recognition.Event
import SpokenIntent.Recognition.Pattern

/-!
What an engine has been told to listen for: intents, each a pattern with an identifier, and phrase
hints. A hint of several words is put in place of a single word that sounds like its words run
together.
-/

namespace SpokenIntent

structure Vocabulary where
  intents : List (Pattern × String)
  phrases : List String
  deriving DecidableEq

namespace Vocabulary

def empty : Vocabulary := ⟨[], []⟩

/-- Registers an intent, unless the same phrase is registered for it already. -/
def addIntent (v : Vocabulary) (phrase intentId : String) : Vocabulary :=
  if v.intents.any fun (p, id) => p.source == phrase && id == intentId then v
  else { v with intents := v.intents ++ [(Pattern.parse phrase, intentId)] }

def addPhrase (v : Vocabulary) (phrase : String) : Vocabulary :=
  { v with phrases := v.phrases ++ [phrase] }

def clearPhrases (v : Vocabulary) : Vocabulary :=
  { v with phrases := [] }

def runTogether (hint : String) : String :=
  Text.lower (String.ofList (hint.toList.filter (· != ' ')))

/-- Whether a hint stands for the word heard. A hint without a space never does. -/
def hears (heard : String) (hint : String) : Bool :=
  hint.toList.contains ' ' && runTogether hint == heard

/-- The word itself, or the first hint that stands for it. -/
def biasWord (phrases : List String) (word : String) : String :=
  (phrases.find? (hears (normalizeWord word))).getD word

/-- The utterance with hints put in; untouched when there are none. -/
def bias (phrases : List String) (utterance : String) : String :=
  if phrases.isEmpty then utterance
  else Text.unwords ((Text.words utterance).map (biasWord phrases))

def firstMatch (text : String) : List (Pattern × String) → Option (String × Dict String)
  | [] => none
  | (pattern, intentId) :: rest =>
    match pattern.matches? text with
    | some entities => some (intentId, entities)
    | none => firstMatch text rest

def recognize (v : Vocabulary) (utterance : String) : Recognition :=
  let text := bias v.phrases utterance
  match firstMatch text v.intents with
  | some (intentId, entities) => ⟨text, intentId, entities⟩
  | none => Recognition.textOnly text

end Vocabulary

end SpokenIntent
