import SpokenIntent.Benchmark.Report
import SpokenIntent.Benchmark.Stand
import SpokenIntent.Files
import SpokenIntent.Program

/-!
The relay benchmark as a program: what its arguments ask for, and what it prints.
-/

namespace SpokenIntent.Benchmark

/-- What is measured: how many threads fire how many shots each. The time limit is in seconds; the
report goes to a file if there is one to take it. -/
structure Plan where
  events : Nat
  threads : Nat
  timeout : Nat
  output : Option String
  deriving DecidableEq

def Plan.default : Plan := ⟨10000, 4, 30, none⟩

inductive Invocation where
  | help
  | measure (plan : Plan)
  deriving DecidableEq

/-- Numbers among the arguments are below this bound. -/
def numberBound : Nat := Nat.pow 2 64

def maxThreads : Nat := 64

inductive PlanOption where
  | events
  | threads
  | timeout
  | output
  deriving DecidableEq

def PlanOption.ofName? (name : String) : Option PlanOption :=
  if name = "--events" then some .events
  else if name = "--threads" then some .threads
  else if name = "--timeout" then some .timeout
  else if name = "--output" then some .output
  else none

/-- The plan with an option set, if the value is one for it. -/
def Plan.set? (plan : Plan) (option : PlanOption) (value : String) : Option Plan :=
  let number := Text.readSignedBelow numberBound value
  match option with
  | .events => number.map fun n => { plan with events := max 1 n }
  | .threads => number.map fun n => { plan with threads := max 1 (min maxThreads n) }
  | .timeout => number.map fun n => { plan with timeout := n }
  | .output => some { plan with output := some value }

/-- Reads arguments in order. The first that is wrong counts, unless help is asked for before. -/
def readArguments (plan : Plan) : List String → Except UsageError Invocation
  | [] => .ok (.measure plan)
  | argument :: rest =>
    match PlanOption.ofName? argument with
    | some option =>
      match rest with
      | [] => .error (.missingValue argument)
      | value :: rest =>
        match plan.set? option value with
        | some plan => readArguments plan rest
        | none => .error (.invalidValue argument)
    | none =>
      if argument = "--help" || argument = "-h" then .ok .help
      else .error (.unknownArgument argument)

def Invocation.ofArguments (arguments : List String) : Except UsageError Invocation :=
  readArguments Plan.default arguments

def usage : List String := [
  "Usage: cargo run -p intent-bridge-core --bin relay-benchmark -- \\",
  "  [--events <per-thread>] [--threads <n>] [--timeout <secs>] [--output <file.json>]"]

namespace Plan

def total (plan : Plan) : Nat := plan.events * plan.threads

/-- The shots of one thread, in order, all fired at time zero. -/
def shotsOf (plan : Plan) (thread : Nat) : List Shot :=
  (List.range plan.events).map fun seq => ⟨thread, seq, 0⟩

/-- All shots, one thread after the other. -/
def shots (plan : Plan) : List Shot :=
  (List.range plan.threads).flatMap plan.shotsOf

def measure (plan : Plan) (shots : List Shot) (trial : Trial) : Host.Watch × Trial :=
  (shots.foldl Trial.fire trial).await plan.total

def report (plan : Plan) (wall : Nat) (trial : Trial) : Report :=
  Report.ofTally plan.threads plan.events wall trial.world.tally

def announcement (plan : Plan) : String :=
  s!"Running relay benchmark: {plan.threads} threads x {plan.events} recognized events"

end Plan

def failureLine (reason : String) : String := "relay benchmark failed: " ++ reason

def failed (reason : String) : Outcome := ⟨[], [failureLine reason], false⟩

def timedOut : String := "timed out before every event was delivered"

/-- What stands in the way of success: a report that could not be written, or overtaken shots. -/
def verdict (r : Report) (refused : Option String) : Option String :=
  match refused with
  | some reason => some reason
  | none => if 0 < r.violations then some s!"{r.violations} FIFO violations" else none

def delivery (plan : Plan) (r : Report) (refused : Option String) : List String :=
  match plan.output, refused with
  | none, _ => [r.toJson.pretty]
  | some path, none => ["Wrote benchmark report: " ++ path]
  | some _, some _ => []

/-- The end of a benchmark; `done` tells whether every shot has arrived in time. -/
def conclude (plan : Plan) (done : Bool) (r : Report) (refused : Option String) : Outcome :=
  let verdict := verdict r refused
  ⟨[plan.announcement, r.summary] ++ delivery plan r refused,
    (if done then [] else [timedOut]) ++ verdict.toList.map failureLine, verdict.isNone⟩

/-- The whole program, on a clock that stands still. -/
def run (arguments : List String) (files : Files) : Outcome × Files :=
  match Invocation.ofArguments arguments with
  | .error e => (failed e.message, files)
  | .ok .help => (⟨usage, [], true⟩, files)
  | .ok (.measure plan) =>
    match Trial.open? with
    | .error e => (failed e.message, files)
    | .ok trial =>
      let (watch, trial) := plan.measure plan.shots trial
      let report := plan.report 0 trial
      match plan.output with
      | none => (conclude plan watch.done report none, files)
      | some path =>
        match files.save path report.toJson.pretty with
        | .error e => (conclude plan watch.done report (some e.message), files)
        | .ok files => (conclude plan watch.done report none, files)

end SpokenIntent.Benchmark
