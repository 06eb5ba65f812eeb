import SpokenIntent.Json.Writer

/-!
Accounts: what a value tells of itself, piece by piece, to whoever takes it down. The same account is taken
down as text on one line, or as a JSON value without a text in between. A key is told like anything else, and
only a text will do for one; an account with another key cannot be taken down at all.
-/

namespace SpokenIntent

inductive Account where
  | text (s : String)
  | list (items : List Account)
  | map (entries : List (Account × Account))

namespace Account

/-- A map whose keys are names. -/
def record (fields : List (String × Account)) : Account :=
  .map (fields.map fun (name, a) => (.text name, a))

def badKey : String := "key must be a string"

/-- The account of a key, as the name that it stands for. -/
def asKey : Account → Except String String
  | .text s => .ok s
  | _ => .error badKey

/-! ### As text -/

mutual

def write : Account → Except String (List Char)
  | .text s => .ok (Json.writeString s)
  | .list items => (writeItems items).map fun texts => '[' :: ([','].intercalate texts ++ [']'])
  | .map entries => (writeEntries entries).map fun texts => '{' :: ([','].intercalate texts ++ ['}'])

def writeItems : List Account → Except String (List (List Char))
  | [] => .ok []
  | a :: rest =>
    match write a with
    | .error e => .error e
    | .ok written => (writeItems rest).map (written :: ·)

def writeEntries : List (Account × Account) → Except String (List (List Char))
  | [] => .ok []
  | (key, a) :: rest =>
    match key.asKey with
    | .error e => .error e
    | .ok name =>
      match write a with
      | .error e => .error e
      | .ok written => (writeEntries rest).map ((Json.writeString name ++ ':' :: written) :: ·)

end

/-! ### As a value -/

mutual

/-- The JSON value that is told. Members go into a dictionary as they come, so they are kept in the order of
their names, and of two with the same name the later one counts. -/
def value : Account → Except String Json
  | .text s => .ok (.string s)
  | .list items => (valueItems items).map .array
  | .map entries => (valueEntries [] entries).map .object

def valueItems : List Account → Except String (List Json)
  | [] => .ok []
  | a :: rest =>
    match value a with
    | .error e => .error e
    | .ok v => (valueItems rest).map (v :: ·)

/-- `members` are those that have been told before. -/
def valueEntries (members : Dict Json) : List (Account × Account) → Except String (Dict Json)
  | [] => .ok members
  | (key, a) :: rest =>
    match key.asKey with
    | .error e => .error e
    | .ok name =>
      match value a with
      | .error e => .error e
      | .ok v => valueEntries (members.insert name v) rest

end

end Account

namespace Json

mutual

/-- The value that is meant by what was written: the members of objects come in the order of their names, and
of two with the same name only the later one is left. -/
def settled : Json → Json
  | .array items => .array (settledItems items)
  | .object members => .object (Dict.ofList (settledMembers members))
  | other => other

def settledItems : List Json → List Json
  | [] => []
  | x :: xs => settled x :: settledItems xs

def settledMembers : List (String × Json) → List (String × Json)
  | [] => []
  | (k, v) :: rest => (k, settled v) :: settledMembers rest

end

end Json

end SpokenIntent
