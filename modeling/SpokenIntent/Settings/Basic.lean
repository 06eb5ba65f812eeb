import SpokenIntent.Credentials
import SpokenIntent.Text.Lowercase
import SpokenIntent.Vocabulary.Utterance

/-!
Settings: credentials, the intents and phrase hints that an engine is told, and the commands that
utterances stand for. Normal settings have no blanks around their texts, no empty entries, no entry
twice, and no more entries than there is room for.
-/

namespace SpokenIntent

structure IntentSetting where
  phrase : String
  intentId : String
  deriving DecidableEq

structure Settings where
  key : Option String
  region : Option String
  intents : List IntentSetting
  phrases : List String
  commands : Dict String
  logFilter : String
  deriving DecidableEq

namespace Settings

def defaultLogFilter : String := "intent_bridge=info,intent_bridge_core=info"

def defaultIntents : List IntentSetting := [
  ⟨"Create new file \x7bfileName\x7d", "Voice.CreateFile"⟩,
  ⟨"Add \x7bnumNewLines\x7d new line", "Voice.InsertNewLine"⟩,
  ⟨"Add \x7bnumNewLines\x7d new lines", "Voice.InsertNewLine"⟩,
  ⟨"Toggle break point line \x7bbreakpointLine\x7d", "Voice.Debugging"⟩,
  ⟨"Toggle breakpoint line \x7bbreakpointLine\x7d", "Voice.Debugging"⟩,
  ⟨"Toggle break point on line \x7bbreakpointLine\x7d", "Voice.Debugging"⟩,
  ⟨"Toggle breakpoint on line \x7bbreakpointLine\x7d", "Voice.Debugging"⟩,
  ⟨"Insert text \x7btextInsertion\x7d", "Voice.InsertText"⟩,
  ⟨"Insert comment \x7btextInsertion\x7d", "Voice.InsertComment"⟩,
  ⟨"\x7bterminalPhrase\x7d in terminal", "Voice.Terminal"⟩,
  ⟨"Move cursor to line \x7blineNumber\x7d", "Voice.Positioning"⟩,
  ⟨"Go to line \x7blineNumber\x7d", "Voice.Positioning"⟩,
  ⟨"Show message \x7bdialogText\x7d", "Voice.Dialog"⟩]

def defaultCommands : Dict String := [
  ("breakpoint", "editor.debug.action.toggleBreakpoint"),
  ("close editor", "workbench.action.closeActiveEditor"),
  ("comment", "editor.action.commentLine"),
  ("copy", "editor.action.clipboardCopyAction"),
  ("delete line", "editor.action.deleteLines"),
  ("format document", "editor.action.formatDocument"),
  ("go to definition", "editor.action.revealDefinition"),
  ("open terminal", "workbench.action.terminal.focus"),
  ("paste", "editor.action.clipboardPasteAction"),
  ("redo", "redo"),
  ("start debugging", "workbench.action.debug.start"),
  ("step over", "workbench.action.debug.stepOver"),
  ("toggle sidebar", "workbench.action.toggleSidebarVisibility"),
  ("undo", "undo")]

def default : Settings :=
  ⟨none, none, defaultIntents, ["on line"], defaultCommands, defaultLogFilter⟩

def maxIntents : Nat := 256

def maxPhrases : Nat := 64

/-- A value without the blanks around it; one that is blank is no value. -/
def normalizeOptional (value : Option String) : Option String :=
  (value.map Text.trim).filter fun v => !v.isEmpty

/-- The intents still to be kept after `kept`, of which there are at most `maxIntents` altogether. -/
def keepIntents (kept : List IntentSetting) : List IntentSetting → List IntentSetting
  | [] => kept
  | intent :: rest =>
    let candidate : IntentSetting := ⟨Text.trim intent.phrase, Text.trim intent.intentId⟩
    if candidate.phrase.isEmpty || candidate.intentId.isEmpty || kept.contains candidate then
      keepIntents kept rest
    else
      let kept := kept ++ [candidate]
      if maxIntents ≤ kept.length then kept else keepIntents kept rest

def normalizeIntents (intents : List IntentSetting) : List IntentSetting :=
  keepIntents [] intents

/-- Whether two phrases are the same but for the case of ASCII letters. -/
def samePhrase (a b : String) : Bool :=
  Text.lowerAscii a == Text.lowerAscii b

/-- The phrases still to be kept after `kept`, of which there are at most `maxPhrases` altogether. -/
def keepPhrases (kept : List String) : List String → List String
  | [] => kept
  | phrase :: rest =>
    let candidate := Text.trim phrase
    if candidate.isEmpty || kept.any (samePhrase · candidate) then keepPhrases kept rest
    else
      let kept := kept ++ [candidate]
      if maxPhrases ≤ kept.length then kept else keepPhrases kept rest

def normalizePhrases (phrases : List String) : List String :=
  keepPhrases [] phrases

/-- A command under its normalized utterance, unless either is empty. -/
def normalizeCommand? (entry : String × String) : Option (String × String) :=
  let utterance := normalizeUtterance entry.1
  let command := Text.trim entry.2
  if utterance.isEmpty || command.isEmpty then none else some (utterance, command)

/-- Commands under their normalized utterances; of several with the same one the last counts. -/
def normalizeCommands (commands : Dict String) : Dict String :=
  Dict.ofList (commands.filterMap normalizeCommand?)

def normalizeLogFilter (filter : String) : String :=
  let trimmed := Text.trim filter
  if trimmed.isEmpty then defaultLogFilter else trimmed

def normalize (s : Settings) : Settings where
  key := normalizeOptional s.key
  region := normalizeOptional s.region
  intents := normalizeIntents s.intents
  phrases := normalizePhrases s.phrases
  commands := normalizeCommands s.commands
  logFilter := normalizeLogFilter s.logFilter

/-- A variable that is set to something that is not blank. -/
def filled? (env : String → Option String) (name : String) : Option String :=
  (env name).filter fun v => !Text.isBlankText v

/-- The credentials to use: what the environment says, and otherwise what the settings say. -/
def credentials (s : Settings) (env : String → Option String) :
    Except CredentialsError Credentials :=
  Credentials.ofOptions ((filled? env Credentials.keyVariable).or s.key)
    ((filled? env Credentials.regionVariable).or s.region)

end Settings

end SpokenIntent
