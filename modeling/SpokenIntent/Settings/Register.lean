import SpokenIntent.Session.Bridge
import SpokenIntent.Settings.Basic

/-!
Telling an engine what to listen for: the intents of settings in order, then their phrase hints.
-/

namespace SpokenIntent.Settings

variable {ε κ : Type} [Engine ε]

def registerIntents : List IntentSetting → Session.Act ε κ Unit
  | [] => pure ()
  | intent :: rest => do
    Session.addIntent intent.phrase intent.intentId
    registerIntents rest

def registerPhrases : List String → Session.Act ε κ Unit
  | [] => pure ()
  | phrase :: rest => do
    Session.addPhrase phrase
    registerPhrases rest

def register (s : Settings) : Session.Act ε κ Unit := do
  registerIntents s.intents
  registerPhrases s.phrases

end SpokenIntent.Settings
