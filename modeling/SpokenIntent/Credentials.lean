import SpokenIntent.Host.Value
import SpokenIntent.Json.Shape
import SpokenIntent.Text.Blank
import SpokenIntent.Text.Quoted

/-!
Credentials for the recognition service: a subscription key and a region, neither of them blank.
They are kept exactly as given, whichever way they come: as two texts, as an object of the host, as
JSON text, or from environment variables.
-/

namespace SpokenIntent

inductive CredentialsError where
  | missingObject
  | missingKey
  | missingRegion
  | emptyValue (field : String)
  | wrongType (field : String)
  deriving DecidableEq

def CredentialsError.message : CredentialsError → String
  | .missingObject => "a config object containing a key and region is required"
  | .missingKey => "key argument missing from config"
  | .missingRegion => "region argument missing from config"
  | .emptyValue field => s!"config value `{field}` must not be empty"
  | .wrongType field => s!"config value `{field}` must be a string"

structure Credentials where
  key : String
  region : String
  key_filled : Text.isBlankText key = false
  region_filled : Text.isBlankText region = false
  deriving DecidableEq

namespace Credentials

def keyVariable : String := "SUBSCRIPTION_KEY"

def regionVariable : String := "REGION"

/-- Credentials from two texts; of two blank ones the key is reported. -/
def ofTexts (key region : String) : Except CredentialsError Credentials :=
  if hk : Text.isBlankText key = false then
    if hr : Text.isBlankText region = false then .ok ⟨key, region, hk, hr⟩
    else .error (.emptyValue "region")
  else .error (.emptyValue "key")

/-- A field that is there: one with the value `undefined` is not. -/
def present? (key : String) (fields : Dict HostValue) : Option HostValue :=
  match Dict.get? key fields with
  | some .undefined => none
  | found => found

def ofHostValue : Option HostValue → Except CredentialsError Credentials
  | some (.object fields) =>
    match present? "key" fields with
    | none => .error .missingKey
    | some key =>
      match present? "region" fields with
      | none => .error .missingRegion
      | some region =>
        match key.asString?, region.asString? with
        | none, _ => .error (.wrongType "key")
        | some _, none => .error (.wrongType "region")
        | some key, some region => ofTexts key region
  | _ => .error .missingObject

def ofOptions (key region : Option String) : Except CredentialsError Credentials :=
  match key, region with
  | none, _ => .error .missingKey
  | some _, none => .error .missingRegion
  | some key, some region => ofTexts key region

def ofEnvironment (env : String → Option String) : Except CredentialsError Credentials :=
  ofOptions (env keyVariable) (env regionVariable)

/-- The two fields as far as a text has given them. -/
structure Draft where
  key : Option (Option String)
  region : Option (Option String)

def Draft.shape : Json.Shape Draft where
  fields := [
    ⟨"key", fun d => d.key.isSome, fun d cs =>
      (Json.readOptional Json.readString cs).map fun (v, cs) => ({ d with key := some v }, cs)⟩,
    ⟨"region", fun d => d.region.isSome, fun d cs =>
      (Json.readOptional Json.readString cs).map fun (v, cs) => ({ d with region := some v }, cs)⟩]
  mayStop := false

inductive TextError where
  | json (fault : Json.Fault)
  | invalid (error : CredentialsError)
  deriving DecidableEq

/-- Credentials from JSON text. What the record says is checked before what follows it. -/
def ofJsonText (text : String) : Except TextError Credentials :=
  match Draft.shape.read ⟨none, none⟩ text.toList with
  | .error fault => .error (.json fault)
  | .ok (draft, rest) =>
    match ofOptions draft.key.join draft.region.join with
    | .error error => .error (.invalid error)
    | .ok credentials =>
      if (Json.skipBlank rest).isEmpty then .ok credentials else .error (.json .malformed)

/-- The status text, which does not give the key away. -/
def describe (c : Credentials) : String :=
  "BridgeConfig \x7b key: \"<redacted>\", region: " ++ Text.quote c.region ++ " \x7d"

end Credentials

end SpokenIntent
