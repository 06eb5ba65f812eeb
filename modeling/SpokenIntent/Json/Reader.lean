import SpokenIntent.Json.Value

/-!
Reading JSON text. A reader takes what it needs from the front of a text and leaves the rest, or
says what is wrong at the first place where something is. There are three kinds of faults: the text
is not JSON, it ends too early, or it is JSON of the wrong shape.

Where a reader repeats itself, its steps are counted off on a clock: a list as long as the text that
is left when it begins. A step takes one character or more, so the clock does not run out before the
text does.

Values that nobody asks for are passed over. That is laxer than reading them: numbers may be out of
range, escapes may leave half a surrogate pair, and nesting has no limit.
-/

namespace SpokenIntent.Json

inductive Fault where
  | malformed
  | truncated
  | unfit
  deriving DecidableEq

abbrev Reader (α : Type) := List Char → Except Fault (α × List Char)

def skipBlank : List Char → List Char
  | [] => []
  | c :: rest =>
    if c = ' ' || c = '\n' || c = '\t' || c = '\r' then skipBlank rest else c :: rest

/-- The rest of a keyword such as `null` whose first letter has been read. -/
def readKeyword : List Char → Reader Unit
  | [], cs => .ok ((), cs)
  | _ :: _, [] => .error .truncated
  | k :: more, c :: rest => if c = k then readKeyword more rest else .error .malformed

/-! ### Strings -/

def hexValue? (c : Char) : Option Nat :=
  if '0' ≤ c && c ≤ '9' then some (c.toNat - '0'.toNat)
  else if 'a' ≤ c && c ≤ 'f' then some (c.toNat - 'a'.toNat + 10)
  else if 'A' ≤ c && c ≤ 'F' then some (c.toNat - 'A'.toNat + 10)
  else none

/-- How many bytes the text takes, as far as it matters: less than four or not. -/
def hasFourBytes : List Char → Bool
  | [] => false
  | [a] => 4 ≤ a.utf8Size
  | [a, b] => 4 ≤ a.utf8Size + b.utf8Size
  | [a, b, c] => 4 ≤ a.utf8Size + b.utf8Size + c.utf8Size
  | _ => true

/-- Four hexadecimal digits. The text counts as too short when fewer than four bytes are left. -/
def readHex : Reader Nat
  | cs@(a :: b :: c :: d :: rest) =>
    match hexValue? a, hexValue? b, hexValue? c, hexValue? d with
    | some w, some x, some y, some z => .ok (((w * 16 + x) * 16 + y) * 16 + z, rest)
    | _, _, _, _ => if hasFourBytes cs then .error .malformed else .error .truncated
  | cs => if hasFourBytes cs then .error .malformed else .error .truncated

def isHighSurrogate (n : Nat) : Bool := 0xD800 ≤ n && n ≤ 0xDBFF

def isLowSurrogate (n : Nat) : Bool := 0xDC00 ≤ n && n ≤ 0xDFFF

/-- What follows `\u`: a character, or the first half of a surrogate pair that the second half must
follow at once. -/
def readUnicode : Reader Char := fun cs =>
  match readHex cs with
  | .error fault => .error fault
  | .ok (n, rest) =>
    if isLowSurrogate n then .error .malformed
    else if !isHighSurrogate n then .ok (Char.ofNat n, rest)
    else
      match rest with
      | [] => .error .truncated
      | c :: rest =>
        if c ≠ '\\' then .error .malformed
        else
          match rest with
          | [] => .error .truncated
          | c :: rest =>
            if c ≠ 'u' then .error .malformed
            else
              match readHex rest with
              | .error fault => .error fault
              | .ok (m, rest) =>
                if isLowSurrogate m then
                  .ok (Char.ofNat (0x10000 + (n - 0xD800) * 0x400 + (m - 0xDC00)), rest)
                else .error .malformed

def shortEscape? (c : Char) : Option Char :=
  if c = '"' || c = '\\' || c = '/' then some c
  else if c = 'b' then some '\x08'
  else if c = 'f' then some '\x0C'
  else if c = 'n' then some '\n'
  else if c = 'r' then some '\r'
  else if c = 't' then some '\t'
  else none

/-- One element of a string: a character, or nothing at the closing quote. `unicode` reads what
follows `\u`. -/
def readElement (unicode : Reader Char) : Reader (Option Char)
  | [] => .error .truncated
  | c :: rest =>
    if c = '"' then .ok (none, rest)
    else if c = '\\' then
      match rest with
      | [] => .error .truncated
      | e :: rest =>
        match shortEscape? e with
        | some c => .ok (some c, rest)
        | none =>
          if e = 'u' then (unicode rest).map fun (c, rest) => (some c, rest)
          else .error .malformed
    else if c.toNat < 0x20 then .error .malformed
    else .ok (some c, rest)

def readElements (unicode : Reader Char) : List Char → Reader (List Char)
  | [], _ => .error .truncated
  | _ :: clock, cs =>
    match readElement unicode cs with
    | .error fault => .error fault
    | .ok (none, rest) => .ok ([], rest)
    | .ok (some c, rest) =>
      match readElements unicode clock rest with
      | .error fault => .error fault
      | .ok (more, rest) => .ok (c :: more, rest)

def readText : Reader String := fun cs =>
  (readElements readUnicode cs cs).map fun (s, rest) => (String.ofList s, rest)

/-- Passes over a string: four hexadecimal digits will do after `\u`, whatever they denote. -/
def passText : Reader Unit := fun cs =>
  (readElements (fun cs => (readHex cs).map fun (_, rest) => (' ', rest)) cs cs).map
    fun (_, rest) => ((), rest)

/-! ### Numbers -/

def spanDigits (cs : List Char) : List Char × List Char :=
  (cs.takeWhile Text.isDigit, cs.dropWhile Text.isDigit)

/-- One digit or more; `atEnd` is the fault of a text that stops before the first. -/
def readDigits (atEnd : Fault) : Reader (List Char) := fun cs =>
  match spanDigits cs with
  | ([], []) => .error atEnd
  | ([], _ :: _) => .error .malformed
  | (digits, rest) => .ok (digits, rest)

/-- The digits before the point: a zero stands alone. -/
def readWhole (atEnd : Fault) : Reader (List Char) := fun cs =>
  match readDigits atEnd cs with
  | .ok ('0' :: _ :: _, _) => .error .malformed
  | other => other

def readFraction (atEnd : Fault) : Reader (List Char)
  | '.' :: rest => readDigits atEnd rest
  | cs => .ok ([], cs)

def readExponent (atEnd : Fault) : Reader (Option (Bool × List Char))
  | c :: rest =>
    if c = 'e' || c = 'E' then
      let (negative, rest) :=
        match rest with
        | '+' :: rest => (false, rest)
        | '-' :: rest => (true, rest)
        | rest => (false, rest)
      (readDigits atEnd rest).map fun (digits, rest) => (some (negative, digits), rest)
    else .ok (none, c :: rest)
  | [] => .ok (none, [])

def readUnsigned (atEnd : Fault) (negative : Bool) : Reader Numeral := fun cs =>
  match readWhole atEnd cs with
  | .error fault => .error fault
  | .ok (whole, cs) =>
    match readFraction atEnd cs with
    | .error fault => .error fault
    | .ok (fraction, cs) =>
      match readExponent atEnd cs with
      | .error fault => .error fault
      | .ok (exponent, cs) => .ok (⟨negative, whole, fraction, exponent⟩, cs)

def readSigned (atEnd : Fault) : Reader Numeral
  | '-' :: rest => readUnsigned atEnd true rest
  | cs => readUnsigned atEnd false cs

def readNumeral : Reader Numeral := fun cs =>
  match readSigned .truncated cs with
  | .error fault => .error fault
  | .ok (n, rest) => if n.inRange then .ok (n, rest) else .error .malformed

/-- Passes over a number; one that breaks off is malformed even at the end of the text. -/
def passNumeral : Reader Unit := fun cs =>
  (readSigned .malformed cs).map fun (_, rest) => ((), rest)

def startsNumeral (c : Char) : Bool := c = '-' || Text.isDigit c

/-! ### Lists and objects -/

/-- The items of a list after its opening bracket, one item being due. -/
def readItems {α : Type} (item : Reader α) : List Char → Reader (List α)
  | [], _ => .error .truncated
  | _ :: clock, cs =>
    match item cs with
    | .error fault => .error fault
    | .ok (x, cs) =>
      match skipBlank cs with
      | [] => .error .truncated
      | c :: rest =>
        if c = ']' then .ok ([x], rest)
        else if c = ',' then
          match readItems item clock rest with
          | .error fault => .error fault
          | .ok (xs, rest) => .ok (x :: xs, rest)
        else .error .malformed

def readList {α : Type} (item : Reader α) : Reader (List α) := fun cs =>
  match skipBlank cs with
  | [] => .error .truncated
  | c :: rest => if c = ']' then .ok ([], rest) else readItems item cs (c :: rest)

/-- The members of an object after its opening brace, one member being due. `member` reads a value
after its key and colon, and takes it up into the state. -/
def readMembers {κ σ : Type} (key : Reader κ) (member : σ → κ → Except Fault (Reader σ)) :
    List Char → σ → Reader σ
  | [], _, _ => .error .truncated
  | _ :: clock, state, cs =>
    match skipBlank cs with
    | [] => .error .truncated
    | c :: rest =>
      if c ≠ '"' then .error .malformed
      else
        match key rest with
        | .error fault => .error fault
        | .ok (name, cs) =>
          match member state name with
          | .error fault => .error fault
          | .ok value =>
            match skipBlank cs with
            | [] => .error .truncated
            | c :: rest =>
              if c ≠ ':' then .error .malformed
              else
                match value rest with
                | .error fault => .error fault
                | .ok (state, cs) =>
                  match skipBlank cs with
                  | [] => .error .truncated
                  | c :: rest =>
                    if c = '}' then .ok (state, rest)
                    else if c = ',' then readMembers key member clock state rest
                    else .error .malformed

def readObject {κ σ : Type} (key : Reader κ) (member : σ → κ → Except Fault (Reader σ))
    (state : σ) : Reader σ := fun cs =>
  match skipBlank cs with
  | [] => .error .truncated
  | c :: rest =>
    if c = '}' then .ok (state, rest) else readMembers key member cs state (c :: rest)

/-! ### Values -/

/-- The number of lists and objects that may stand inside one another. -/
def maxDepth : Nat := 127

/-- A value; `depth` more lists or objects may be opened. -/
def readValue : List Char → Nat → Reader Json
  | [], _, _ => .error .truncated
  | _ :: clock, depth, cs =>
    match skipBlank cs with
    | [] => .error .truncated
    | c :: rest =>
      if c = 'n' then (readKeyword ['u', 'l', 'l'] rest).map fun (_, cs) => (.null, cs)
      else if c = 't' then (readKeyword ['r', 'u', 'e'] rest).map fun (_, cs) => (.bool true, cs)
      else if c = 'f' then
        (readKeyword ['a', 'l', 's', 'e'] rest).map fun (_, cs) => (.bool false, cs)
      else if c = '"' then (readText rest).map fun (s, cs) => (.string s, cs)
      else if startsNumeral c then (readNumeral (c :: rest)).map fun (n, cs) => (.number n, cs)
      else if c = '[' then
        match depth with
        | 0 => .error .malformed
        | depth + 1 =>
          (readList (readValue clock depth) rest).map fun (items, cs) => (.array items, cs)
      else if c = '{' then
        match depth with
        | 0 => .error .malformed
        | depth + 1 =>
          let member (members : List (String × Json)) (name : String) :
              Except Fault (Reader (List (String × Json))) :=
            .ok fun cs => (readValue clock depth cs).map fun (v, cs) => (members ++ [(name, v)], cs)
          (readObject readText member [] rest).map fun (members, cs) => (.object members, cs)
      else .error .malformed

def passValue : List Char → Reader Unit
  | [], _ => .error .truncated
  | _ :: clock, cs =>
    match skipBlank cs with
    | [] => .error .truncated
    | c :: rest =>
      if c = 'n' then readKeyword ['u', 'l', 'l'] rest
      else if c = 't' then readKeyword ['r', 'u', 'e'] rest
      else if c = 'f' then readKeyword ['a', 'l', 's', 'e'] rest
      else if c = '"' then passText rest
      else if startsNumeral c then passNumeral (c :: rest)
      else if c = '[' then (readList (passValue clock) rest).map fun (_, cs) => ((), cs)
      else if c = '{' then readObject passText (fun _ _ => .ok (passValue clock)) () rest
      else .error .malformed

/-- A text that holds one value of the kind that `reader` reads, and blanks around it. -/
def readDocument {α : Type} (reader : Reader α) (text : String) : Except Fault α :=
  match reader text.toList with
  | .error fault => .error fault
  | .ok (x, rest) => if (skipBlank rest).isEmpty then .ok x else .error .malformed

def parse (text : String) : Except Fault Json :=
  readDocument (fun cs => readValue cs maxDepth cs) text

end SpokenIntent.Json
