import SpokenIntent.Text.Split

/-!
A tree of files, as programs see it that read and write whole files. A path is followed name by name
through directories that exist; nothing else can be passed through. Names and paths have bounds on
their length in bytes.
-/

namespace SpokenIntent

/-- Why a file operation is refused. In a tree as kept here nothing is forbidden. -/
inductive FileError where
  | notFound
  | alreadyThere
  | notDirectory
  | isDirectory
  | nameTooLong
  | noSpace
  | forbidden
  deriving DecidableEq

def FileError.message : FileError → String
  | .notFound => "No such file or directory (os error 2)"
  | .alreadyThere => "File exists (os error 17)"
  | .notDirectory => "Not a directory (os error 20)"
  | .isDirectory => "Is a directory (os error 21)"
  | .nameTooLong => "File name too long (os error 36)"
  | .noSpace => "No space left on device (os error 28)"
  | .forbidden => "Permission denied (os error 13)"

/-- A device takes up what is written without a trace, unless it is full. -/
inductive Node where
  | directory
  | file (bytes : List UInt8)
  | device (full : Bool)
  deriving DecidableEq

/-- Nodes by their place, a list of names from the root down; of two at one place the first counts.
The root is always there. Relative paths start at `base`. -/
structure Files where
  base : List String
  nodes : List (List String × Node)

namespace Files

/-- The devices that are always there. -/
def devices : List (List String × Node) := [
  (["dev"], .directory),
  (["dev", "null"], .device false),
  (["dev", "full"], .device true)]

/-- A tree with nothing in it but the devices, the directory `base` and those above it. -/
def empty (base : List String) : Files :=
  ⟨base, (List.range base.length).map (fun n => (base.take (n + 1), .directory)) ++ devices⟩

def maxNameSize : Nat := 255

def maxPathSize : Nat := 4095

def nameFits (name : String) : Bool := name.utf8ByteSize ≤ maxNameSize

def pathFits (path : String) : Bool := path.utf8ByteSize ≤ maxPathSize

def find? (files : Files) (place : List String) : Option Node :=
  if place.isEmpty then some .directory
  else (files.nodes.find? fun node => node.1 == place).map Prod.snd

def put (files : Files) (place : List String) (node : Node) : Files :=
  { files with nodes := (place, node) :: files.nodes }

def names (path : String) : List String :=
  (Text.pieces '/' path).filter fun name => !name.isEmpty

def origin (files : Files) (path : String) : List String :=
  if path.toList.head? = some '/' then [] else files.base

/-- Whether a path ends in a slash, which only a directory may. -/
def endsInSlash (path : String) : Bool :=
  path.toList.getLast? == some '/'

def enter (files : Files) (place : List String) : List String → Except FileError (List String)
  | [] => .ok place
  | name :: rest =>
    if name = "." then files.enter place rest
    else if name = ".." then files.enter place.dropLast rest
    else if !nameFits name then .error .nameTooLong
    else
      match files.find? (place ++ [name]) with
      | some .directory => files.enter (place ++ [name]) rest
      | some _ => .error .notDirectory
      | none => .error .notFound

/-- Follows names and makes the directories that are missing on the way. -/
def makeDirectories (files : Files) (place : List String) : List String → Except FileError Files
  | [] => .ok files
  | name :: rest =>
    if name = "." then files.makeDirectories place rest
    else if name = ".." then files.makeDirectories place.dropLast rest
    else if !nameFits name then .error .nameTooLong
    else
      match files.find? (place ++ [name]) with
      | some .directory => files.makeDirectories (place ++ [name]) rest
      | some _ => .error (if rest.isEmpty then .alreadyThere else .notDirectory)
      | none => (files.put (place ++ [name]) .directory).makeDirectories (place ++ [name]) rest

/-- What is left of a path read backwards after the slashes and single dots at its end. -/
def dropDots : List Char → List Char
  | '/' :: back => dropDots back
  | '.' :: '/' :: back => dropDots back
  | ['.'] => []
  | back => back

/-- The path of the directory that a path stands in, empty for the place where the path begins. -/
def parentPath (path : String) : String :=
  String.ofList (dropDots ((dropDots path.toList.reverse).dropWhile (· ≠ '/'))).reverse

/-- The place that a path denotes, if what stands there need not be a directory. -/
def place (files : Files) (path : String) : Except FileError (List String) :=
  if !pathFits path then .error .nameTooLong
  else
    match (names path).getLast? with
    | none => .error (if path.isEmpty then .notFound else .isDirectory)
    | some name =>
      match files.enter (files.origin path) (names path).dropLast with
      | .error e => .error e
      | .ok place =>
        if name = "." || name = ".." || endsInSlash path then .error .isDirectory
        else if !nameFits name then .error .nameTooLong
        else .ok (place ++ [name])

def read (files : Files) (path : String) : Option (List UInt8) :=
  match files.place path with
  | .error _ => none
  | .ok place =>
    match files.find? place with
    | some (.file bytes) => some bytes
    | some (.device _) => some []
    | _ => none

def write (files : Files) (path : String) (bytes : List UInt8) : Except FileError Files :=
  match files.place path with
  | .error e => .error e
  | .ok place =>
    match files.find? place with
    | some .directory => .error .isDirectory
    | some (.device full) => if full then .error .noSpace else .ok files
    | _ => .ok (files.put place (.file bytes))

def makeParent (files : Files) (path : String) : Except FileError Files :=
  let parent := parentPath path
  if pathFits parent then files.makeDirectories (files.origin path) (names parent)
  else .error .nameTooLong

/-- Writes a text into a file, in a directory that is made if need be. -/
def save (files : Files) (path text : String) : Except FileError Files :=
  match files.makeParent path with
  | .error e => .error e
  | .ok files => files.write path text.toUTF8.toList

end Files

end SpokenIntent
