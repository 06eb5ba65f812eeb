import SpokenIntent.Dict
import SpokenIntent.Session.Payload
import SpokenIntent.Vocabulary.Utterance

/-!
From a final hypothesis to what is to be done. With intent matches it is an intent and its entities,
those that hold counts and line numbers also as numbers. Without, the utterance is looked up in a
table of commands.
-/

namespace SpokenIntent

inductive Dispatch where
  | command (utterance command : String)
  | intent (intentId : String) (entities : Dict String) (numbers : Dict Nat)
  | unmatched (utterance : String)
  deriving DecidableEq

structure CommandTable where
  commands : Dict String

namespace CommandTable

def numericEntities : List String := ["numNewLines", "lineNumber", "breakpointLine"]

/-- The entities of matches, without those whose names are taken. -/
def entitiesOf (found : List IntentMatch) : Dict String :=
  Dict.ofList (found.filterMap fun m => m.entityValue?.map fun value => (m.entity, value))

def numbersOf (entities : Dict String) : Dict Nat :=
  entities.filterMap fun (name, value) =>
    if numericEntities.contains name then (spokenNumber? value).map fun n => (name, n) else none

def resolve (table : CommandTable) (p : RecognizedPayload) : Dispatch :=
  match p.intentMatches with
  | first :: _ =>
    let entities := entitiesOf p.intentMatches
    .intent first.id entities (numbersOf entities)
  | [] =>
    let utterance := normalizeUtterance p.text
    match Dict.get? utterance table.commands with
    | some command => .command utterance command
    | none => .unmatched utterance

end CommandTable

end SpokenIntent
