import SpokenIntent.Json.Writer
import SpokenIntent.Settings.Basic
import SpokenIntent.Text.Utf8

/-!
The settings file: JSON, laid out for people to edit. A field that is left out has its default; a
file that is missing, is not text or does not hold settings counts as if there were none. What is
loaded is normalized.
-/

namespace SpokenIntent

namespace IntentSetting

def toJson (i : IntentSetting) : Json :=
  .object [("phrase", .string i.phrase), ("intentId", .string i.intentId)]

/-- The fields as far as a text has given them. -/
structure Draft where
  phrase : Option String
  intentId : Option String

def shape : Json.Shape Draft where
  fields := [
    ⟨"phrase", fun d => d.phrase.isSome, fun d cs =>
      (Json.readString cs).map fun (s, cs) => ({ d with phrase := some s }, cs)⟩,
    ⟨"intentId", fun d => d.intentId.isSome, fun d cs =>
      (Json.readString cs).map fun (s, cs) => ({ d with intentId := some s }, cs)⟩]
  mayStop := false

def read : Json.Reader IntentSetting := fun cs =>
  match shape.read ⟨none, none⟩ cs with
  | .error fault => .error fault
  | .ok (⟨some phrase, some intentId⟩, cs) => .ok (⟨phrase, intentId⟩, cs)
  | .ok _ => .error .unfit

end IntentSetting

namespace Settings

def optionalJson : Option String → Json
  | none => .null
  | some s => .string s

def toJson (s : Settings) : Json :=
  .object [
    ("key", optionalJson s.key),
    ("region", optionalJson s.region),
    ("intents", .array (s.intents.map IntentSetting.toJson)),
    ("phrases", .array (s.phrases.map .string)),
    ("commands", .object (s.commands.map fun (utterance, command) => (utterance, .string command))),
    ("logFilter", .string s.logFilter)]

/-- The fields as far as a text has given them. -/
structure Draft where
  key : Option (Option String)
  region : Option (Option String)
  intents : Option (List IntentSetting)
  phrases : Option (List String)
  commands : Option (Dict String)
  logFilter : Option String

def Draft.empty : Draft := ⟨none, none, none, none, none, none⟩

def shape : Json.Shape Draft where
  fields := [
    ⟨"key", fun d => d.key.isSome, fun d cs =>
      (Json.readOptional Json.readString cs).map fun (v, cs) => ({ d with key := some v }, cs)⟩,
    ⟨"region", fun d => d.region.isSome, fun d cs =>
      (Json.readOptional Json.readString cs).map fun (v, cs) => ({ d with region := some v }, cs)⟩,
    ⟨"intents", fun d => d.intents.isSome, fun d cs =>
      (Json.readListOf IntentSetting.read cs).map fun (v, cs) => ({ d with intents := some v }, cs)⟩,
    ⟨"phrases", fun d => d.phrases.isSome, fun d cs =>
      (Json.readListOf Json.readString cs).map fun (v, cs) => ({ d with phrases := some v }, cs)⟩,
    ⟨"commands", fun d => d.commands.isSome, fun d cs =>
      (Json.readDict Json.readString cs).map fun (v, cs) => ({ d with commands := some v }, cs)⟩,
    ⟨"logFilter", fun d => d.logFilter.isSome, fun d cs =>
      (Json.readString cs).map fun (v, cs) => ({ d with logFilter := some v }, cs)⟩]
  mayStop := true

/-- The settings of a draft, what is left out being as by default. -/
def ofDraft (d : Draft) : Settings where
  key := d.key.getD default.key
  region := d.region.getD default.region
  intents := d.intents.getD default.intents
  phrases := d.phrases.getD default.phrases
  commands := d.commands.getD default.commands
  logFilter := d.logFilter.getD default.logFilter

def read : Json.Reader Settings := fun cs =>
  (shape.read Draft.empty cs).map fun (d, cs) => (ofDraft d, cs)

def parse (text : String) : Except Json.Fault Settings :=
  Json.readDocument read text

def render (s : Settings) : String := s.toJson.pretty

def ofText (text : Option String) : Settings :=
  match text.map parse with
  | some (.ok s) => s.normalize
  | _ => default.normalize

def ofBytes (bytes : Option (List UInt8)) : Settings :=
  ofText <| bytes.bind fun bytes => (Text.readUtf8 bytes).toOption

end Settings

end SpokenIntent
