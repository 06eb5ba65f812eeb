import SpokenIntent.Json.Value
import SpokenIntent.Text.Quoted

/-!
Writing JSON, on one line or laid out over several with two blanks for each level. Strings are
escaped where JSON demands it and nowhere else.
-/

namespace SpokenIntent.Json

def hexPair (n : Nat) : List Char :=
  [Nat.digitChar (n / 16), Nat.digitChar (n % 16)]

def escapeChar (c : Char) : List Char :=
  if c = '"' then ['\\', '"']
  else if c = '\\' then ['\\', '\\']
  else if c = '\x08' then ['\\', 'b']
  else if c = '\x0C' then ['\\', 'f']
  else if c = '\n' then ['\\', 'n']
  else if c = '\r' then ['\\', 'r']
  else if c = '\t' then ['\\', 't']
  else if c.toNat < 0x20 then ['\\', 'u', '0', '0'] ++ hexPair c.toNat
  else [c]

def writeString (s : String) : List Char :=
  '"' :: (s.toList.flatMap escapeChar ++ ['"'])

def writeBool (b : Bool) : List Char :=
  if b then ['t', 'r', 'u', 'e'] else ['f', 'a', 'l', 's', 'e']

def writeNull : List Char := ['n', 'u', 'l', 'l']

mutual

def write : Json → List Char
  | .null => writeNull
  | .bool b => writeBool b
  | .number n => n.toList
  | .string s => writeString s
  | .array [] => ['[', ']']
  | .array (x :: xs) => '[' :: (write x ++ writeItems xs)
  | .object [] => ['{', '}']
  | .object ((k, v) :: rest) => '{' :: (writeString k ++ ':' :: (write v ++ writeMembers rest))

def writeItems : List Json → List Char
  | [] => [']']
  | x :: xs => ',' :: (write x ++ writeItems xs)

def writeMembers : List (String × Json) → List Char
  | [] => ['}']
  | (k, v) :: rest => ',' :: (writeString k ++ ':' :: (write v ++ writeMembers rest))

end

def newLine (level : Nat) : List Char :=
  '\n' :: List.replicate (2 * level) ' '

mutual

/-- The laid out text of a value that stands at `level`. -/
def writeLaidOut (level : Nat) : Json → List Char
  | .null => writeNull
  | .bool b => writeBool b
  | .number n => n.toList
  | .string s => writeString s
  | .array [] => ['[', ']']
  | .array (x :: xs) =>
    '[' :: (newLine (level + 1) ++ writeLaidOut (level + 1) x ++ laidOutItems level xs)
  | .object [] => ['{', '}']
  | .object ((k, v) :: rest) =>
    '{' :: (newLine (level + 1) ++ writeString k ++ ':' :: ' ' :: writeLaidOut (level + 1) v ++
      laidOutMembers level rest)

def laidOutItems (level : Nat) : List Json → List Char
  | [] => newLine level ++ [']']
  | x :: xs => ',' :: (newLine (level + 1) ++ writeLaidOut (level + 1) x ++ laidOutItems level xs)

def laidOutMembers (level : Nat) : List (String × Json) → List Char
  | [] => newLine level ++ ['}']
  | (k, v) :: rest =>
    ',' :: (newLine (level + 1) ++ writeString k ++ ':' :: ' ' :: writeLaidOut (level + 1) v ++
      laidOutMembers level rest)

end

def compact (j : Json) : String := String.ofList (write j)

def pretty (j : Json) : String := String.ofList (writeLaidOut 0 j)

end SpokenIntent.Json
