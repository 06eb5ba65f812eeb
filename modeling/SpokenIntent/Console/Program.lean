import SpokenIntent.Console.Desk
import SpokenIntent.Files
import SpokenIntent.Program
import SpokenIntent.Settings.File
import SpokenIntent.Settings.Location
import SpokenIntent.Text.Utf8

/-!
The console as a program: what its arguments ask for, and what it prints from the first line of its
input to the last.
-/

namespace SpokenIntent.Console

/-- What the console is asked to do: to show how it is used, to write the default settings to a file,
or to work with the settings of a file. -/
inductive Invocation where
  | help
  | writeDefaults (path : String)
  | work (path : String)
  deriving DecidableEq

structure Options where
  path : Option String
  writeDefaults : Bool

def Options.invocation (env : String → Option String) (o : Options) : Invocation :=
  let path := o.path.getD (Settings.defaultPath env)
  if o.writeDefaults then .writeDefaults path else .work path

/-- Reads arguments in order. The first that is wrong counts, unless help is asked for before. -/
def readArguments (env : String → Option String) (o : Options) :
    List String → Except UsageError Invocation
  | [] => .ok (o.invocation env)
  | argument :: rest =>
    if argument = "--settings" then
      match rest with
      | [] => .error (.missingValue argument)
      | path :: rest => readArguments env { o with path := some path } rest
    else if argument = "--init" then readArguments env { o with writeDefaults := true } rest
    else if argument = "--help" || argument = "-h" then .ok .help
    else .error (.unknownArgument argument)

def Invocation.ofArguments (env : String → Option String) (arguments : List String) :
    Except UsageError Invocation :=
  readArguments env ⟨none, false⟩ arguments

def usage : List String := [
  "Usage: intent-bridge [--settings <file.json>] [--init]",
  "",
  "Commands on stdin: start, stop, status, quit.",
  "Any other line is spoken to the recognizer."]

inductive Failure where
  | usage (e : UsageError)
  | write (path : String) (reason : String)
  | credentials (e : CredentialsError)
  | opening (e : OpeningError)
  | input (fault : Text.Utf8Fault)

namespace Failure

/-- What failed, and the cause where it is told apart. -/
def parts : Failure → String × Option String
  | .usage e => (e.message, none)
  | .write path reason => ("failed to write " ++ path, some reason)
  | .credentials e =>
    ("no credentials: set SUBSCRIPTION_KEY and REGION, or key/region in the settings file",
      some e.message)
  | .opening e => (e.message, none)
  | .input fault => ("failed to read stdin", some fault.message)

def lines (f : Failure) : List String :=
  match f.parts with
  | (context, none) => ["Error: " ++ context]
  | (context, some cause) => ["Error: " ++ context, "", "Caused by:", "    " ++ cause]

end Failure

def Failure.outcome (f : Failure) : Outcome := ⟨[], f.lines, false⟩

/-- The end of a program that writes the default settings, which may have been refused. -/
def wroteDefaults (path : String) (refused : Option String) : Outcome :=
  match refused with
  | none => ⟨["Wrote default settings: " ++ path], [], true⟩
  | some reason => (Failure.write path reason).outcome

def enter (s : Settings) (env : String → Option String) (ids : Nat → String) :
    Except Failure Console :=
  match s.credentials env with
  | .error e => .error (.credentials e)
  | .ok credentials =>
    match open? s credentials ids with
    | .error e => .error (.opening e)
    | .ok c => .ok c

/-- What comes of a line: the console goes on, or it has left, in the end with a failure. -/
inductive Progress where
  | goOn (c : Console)
  | left (c : Console) (failure : Option Failure)

def lineEnd : UInt8 := 10

/-- The byte that may stand before the end of a line and is part of it. -/
def carriageReturn : UInt8 := 13

/-- A line without its end; one that the end of the input cuts short has none. -/
def lineContent (line : List UInt8) : List UInt8 :=
  match line.reverse with
  | b :: c :: back =>
    if b ≠ lineEnd then line
    else if c = carriageReturn then back.reverse
    else (c :: back).reverse
  | [b] => if b = lineEnd then [] else line
  | [] => []

def serveLine (c : Console) (line : List UInt8) : Progress :=
  match Text.readUtf8 (lineContent line) with
  | .error fault => .left c.leave (some (.input fault))
  | .ok text =>
    match ConsoleInput.ofLine text with
    | .quit => .left c.finish none
    | input => .goOn (c.play [.input input, .drain])

/-- Serves lines until one of them ends the program or none is left. -/
def serve (c : Console) : List (List UInt8) → Console × Option Failure
  | [] => (c.finish, none)
  | line :: rest =>
    match c.serveLine line with
    | .goOn c => c.serve rest
    | .left c failure => (c, failure)

def outcome (c : Console) (failure : Option Failure) : Outcome :=
  ⟨c.world.notices.map Notice.text, failure.elim [] Failure.lines, failure.isNone⟩

/-- The whole program: its input is given at once, and session identifiers are taken from `ids`. -/
def run (arguments : List String) (env : String → Option String) (ids : Nat → String)
    (input : List UInt8) (files : Files) : Outcome × Files :=
  match Invocation.ofArguments env arguments with
  | .error e => ((Failure.usage e).outcome, files)
  | .ok .help => (⟨usage, [], true⟩, files)
  | .ok (.writeDefaults path) =>
    match files.save path Settings.default.render with
    | .error e => (wroteDefaults path (some e.message), files)
    | .ok files => (wroteDefaults path none, files)
  | .ok (.work path) =>
    match enter (Settings.ofBytes (files.read path)) env ids with
    | .error failure => (failure.outcome, files)
    | .ok c =>
      let (c, failure) := c.serve (Text.splitAfter lineEnd input)
      (c.outcome failure, files)

end SpokenIntent.Console
