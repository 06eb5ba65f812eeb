import SpokenIntent.Json.Reader

/-!
Reading JSON text of a known shape: strings, lists, optional values, dictionaries and records. A
record is written as an object with its fields in any order, or as a list of its fields in the order
of their declaration.
-/

namespace SpokenIntent.Json

/-- The fault of a text that begins with a value of the wrong kind. The value itself may be at
fault; of a list or an object only the opening matters. -/
def refuse (cs : List Char) : Fault :=
  match skipBlank cs with
  | [] => .truncated
  | c :: rest =>
    let after {α : Type} (found : Except Fault (α × List Char)) : Fault :=
      match found with
      | .error fault => fault
      | .ok _ => .unfit
    if c = 'n' then after (readKeyword ['u', 'l', 'l'] rest)
    else if c = 't' then after (readKeyword ['r', 'u', 'e'] rest)
    else if c = 'f' then after (readKeyword ['a', 'l', 's', 'e'] rest)
    else if c = '"' then after (readText rest)
    else if startsNumeral c then after (readNumeral (c :: rest))
    else if c = '[' || c = '{' then .unfit
    else .malformed

def expect {α : Type} (opening : Char) (reader : Reader α) : Reader α := fun cs =>
  match skipBlank cs with
  | [] => .error .truncated
  | c :: rest => if c = opening then reader rest else .error (refuse (c :: rest))

def readString : Reader String := expect '"' readText

def readNull : Reader Unit := expect 'n' (readKeyword ['u', 'l', 'l'])

def readOptional {α : Type} (reader : Reader α) : Reader (Option α) := fun cs =>
  match skipBlank cs with
  | 'n' :: rest => (readKeyword ['u', 'l', 'l'] rest).map fun (_, cs) => (none, cs)
  | cs => (reader cs).map fun (x, cs) => (some x, cs)

def readListOf {α : Type} (item : Reader α) : Reader (List α) := expect '[' (readList item)

/-- An object with arbitrary keys; of two members with the same key the later one counts. -/
def readDict {α : Type} (value : Reader α) : Reader (Dict α) :=
  expect '{' <| readObject readText
    (fun d name => .ok fun cs => (value cs).map fun (v, cs) => (Dict.insert name v d, cs)) []

/-- A field of a record under construction: its name, whether it has been read, and how it is. -/
structure Field (σ : Type) where
  name : String
  isSet : σ → Bool
  read : σ → Reader σ

/-- The fields of a record in the order of their declaration. `mayStop` says whether a list may stop
before the last of them. -/
structure Shape (σ : Type) where
  fields : List (Field σ)
  mayStop : Bool

def passAny : Reader Unit := fun cs => passValue cs cs

/-- What an object member does to a record: a field must not come twice, and a name that is not a
field is passed over. -/
def Shape.member {σ : Type} (shape : Shape σ) (state : σ) (name : String) :
    Except Fault (Reader σ) :=
  match shape.fields.find? (·.name == name) with
  | none => .ok fun cs => (passAny cs).map fun (_, cs) => (state, cs)
  | some field => if field.isSet state then .error .unfit else .ok (field.read state)

/-- The end of a list that must hold no more. -/
def closeList {σ : Type} (state : σ) : Reader σ := fun cs =>
  match skipBlank cs with
  | [] => .error .truncated
  | c :: rest => if c = ']' then .ok (state, rest) else .error .malformed

/-- Fields written as the items of a list, `first` before the first of them. -/
def Shape.items {σ : Type} (shape : Shape σ) : Bool → List (Field σ) → σ → Reader σ
  | _, [], state, cs => closeList state cs
  | first, field :: more, state, cs =>
    match skipBlank cs with
    | [] => .error .truncated
    | c :: rest =>
      if c = ']' then if shape.mayStop then .ok (state, rest) else .error .unfit
      else if !first && c ≠ ',' then .error .malformed
      else
        match skipBlank (if first then c :: rest else rest) with
        | [] => .error .truncated
        | d :: rest =>
          if d = ']' then .error .malformed
          else
            match field.read state (d :: rest) with
            | .error fault => .error fault
            | .ok (state, cs) => shape.items false more state cs

def Shape.read {σ : Type} (shape : Shape σ) (state : σ) : Reader σ := fun cs =>
  match skipBlank cs with
  | [] => .error .truncated
  | c :: rest =>
    if c = '[' then shape.items true shape.fields state rest
    else if c = '{' then readObject readText shape.member state rest
    else .error (refuse (c :: rest))

/-- The name of a member after the opening brace. Nothing but a string will do. -/
def readKey : Reader String := fun cs =>
  match skipBlank cs with
  | [] => .error .truncated
  | c :: rest => if c = '"' then readText rest else .error .malformed

/-- A variant without contents: its name, or an object whose one member has that name and the value
null. -/
def readVariant {α : Type} (variant? : String → Option α) : Reader α := fun cs =>
  match skipBlank cs with
  | [] => .error .truncated
  | c :: rest =>
    if c = '"' then
      match readText rest with
      | .error fault => .error fault
      | .ok (name, cs) =>
        match variant? name with
        | some x => .ok (x, cs)
        | none => .error .unfit
    else if c = '{' then
      match readKey rest with
      | .error fault => .error fault
      | .ok (name, cs) =>
        match variant? name with
        | none => .error .unfit
        | some x =>
          match skipBlank cs with
          | [] => .error .truncated
          | c :: rest =>
            if c ≠ ':' then .error .malformed
            else
              match readNull rest with
              | .error fault => .error fault
              | .ok (_, cs) =>
                match skipBlank cs with
                | [] => .error .truncated
                | c :: rest => if c = '}' then .ok (x, rest) else .error .malformed
    else .error .malformed

end SpokenIntent.Json
