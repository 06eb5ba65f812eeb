import SpokenIntent.Benchmark.Program
import SpokenIntent.Console.Identifiers
import SpokenIntent.Console.Program

/-!
The programs on a real machine. Called by the name `relay-benchmark` it is the benchmark, and by any
other name the console.
-/

namespace SpokenIntent

/-- The variables of the environment that the programs look at. -/
def readEnvironment : IO (String → Option String) := do
  let names := [Credentials.keyVariable, Credentials.regionVariable, "XDG_DATA_HOME", "HOME"]
  let values ← names.filterMapM fun name => do
    pure ((← IO.getEnv name).map fun value => (name, value))
  pure fun name => Dict.get? name values

def readFile (path : String) : IO (Option (List UInt8)) := do
  try
    let bytes ← IO.FS.readBinFile path
    pure (some bytes.toList)
  catch _ => pure none

def fileErrorText : IO.Error → String
  | .noFileOrDirectory .. => FileError.notFound.message
  | .alreadyExists .. => FileError.alreadyThere.message
  | .permissionDenied .. => FileError.forbidden.message
  | .inappropriateType _ 20 _ => FileError.notDirectory.message
  | .inappropriateType .. => FileError.isDirectory.message
  | .invalidArgument _ 36 _ => FileError.nameTooLong.message
  | .resourceExhausted _ 28 _ => FileError.noSpace.message
  | e => e.toString

/-- Writes a text to a file in a directory that is made if need be, or gives the reason why not. -/
def saveFile (path text : String) : IO (Option String) := do
  let parent := Files.parentPath path
  try
    if !parent.isEmpty then IO.FS.createDirAll parent
    let file ← IO.FS.Handle.mk path .write
    file.putStr text
    file.flush
    pure none
  catch e => pure (some (fileErrorText e))

/-- Prints what comes of a program and gives its exit code. -/
def present (o : Outcome) : IO UInt32 := do
  let out ← IO.getStdout
  let err ← IO.getStderr
  for line in o.output do
    out.putStrLn line
  out.flush
  for line in o.complaints do
    err.putStrLn line
  pure (if o.succeeded then 0 else 1)

/-- The next line of input with its end. The bytes in `read` stand before it, the last one in front. -/
partial def nextLine (input : IO.FS.Stream) (read : List UInt8) : IO (List UInt8) := do
  match (← input.read 1).toList with
  | b :: _ => if b = Console.lineEnd then pure (b :: read).reverse else nextLine input (b :: read)
  | [] => pure read.reverse

partial def converse (input : IO.FS.Stream) (c : Console) : IO UInt32 := do
  let line ← nextLine input []
  if line.isEmpty then present (c.finish.outcome none)
  else
    match c.serveLine line with
    | .left c failure => present (c.outcome failure)
    | .goOn c =>
      let _ ← present (c.outcome none)
      converse input { c with world.notices := [] }

def runConsole (arguments : List String) : IO UInt32 := do
  let env ← readEnvironment
  match Console.Invocation.ofArguments env arguments with
  | .error e => present (Console.Failure.usage e).outcome
  | .ok .help => present ⟨Console.usage, [], true⟩
  | .ok (.writeDefaults path) =>
    present (Console.wroteDefaults path (← saveFile path Settings.default.render))
  | .ok (.work path) =>
    let seed ← IO.rand 0 (Nat.pow 2 60)
    match Console.enter (Settings.ofBytes (← readFile path)) env (sessionId seed) with
    | .error failure => present failure.outcome
    | .ok c => converse (← IO.getStdin) c

def microsSince (start : Nat) : IO Nat := do
  pure ((← IO.monoNanosNow) / 1000 - start)

def fireTimed (start : Nat) (trial : Trial) : List Shot → IO Trial
  | [] => pure trial
  | shot :: rest => do
    fireTimed start (trial.fire { shot with micros := ← microsSince start }) rest

/-- Runs items on a running clock until the shots that are expected have arrived, the time is up, or
none is left. -/
def awaitTimed (start deadline expected : Nat) (trial : Trial) : Nat → IO Trial
  | 0 => pure trial
  | limit + 1 => do
    let now ← microsSince start
    if expected ≤ trial.world.tally.delivered || deadline < now then pure trial
    else
      match (trial.atTime now).step? Stand.runTask with
      | none => pure trial
      | some trial => awaitTimed start deadline expected trial limit

def runBenchmark (arguments : List String) : IO UInt32 := do
  match Benchmark.Invocation.ofArguments arguments with
  | .error e => present (Benchmark.failed e.message)
  | .ok .help => present ⟨Benchmark.usage, [], true⟩
  | .ok (.measure plan) =>
    match Trial.open? with
    | .error e => present (Benchmark.failed e.message)
    | .ok trial =>
      let start ← microsSince 0
      let trial ← fireTimed start trial plan.shots
      let deadline := (← microsSince start) + plan.timeout * 1000000
      let trial ← awaitTimed start deadline plan.total trial plan.total
      let report := plan.report (← microsSince start) trial
      let done := decide (plan.total ≤ report.delivered)
      match plan.output with
      | none => present (Benchmark.conclude plan done report none)
      | some path =>
        present (Benchmark.conclude plan done report (← saveFile path report.toJson.pretty))

end SpokenIntent

def main (arguments : List String) : IO UInt32 := do
  let program ← IO.appPath
  if program.fileName == some "relay-benchmark" then SpokenIntent.runBenchmark arguments
  else SpokenIntent.runConsole arguments
