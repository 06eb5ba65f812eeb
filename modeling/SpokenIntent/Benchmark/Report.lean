import SpokenIntent.Benchmark.Tally
import SpokenIntent.Json.Writer

/-!
What a measurement shows: how many shots were fired, arrived and were overtaken, and how long they
took. Times are kept in microseconds and shown in milliseconds.
-/

namespace SpokenIntent

/-- `threads` fire `events` shots each. -/
structure Report where
  threads : Nat
  events : Nat
  delivered : Nat
  violations : Nat
  wall : Nat
  median : Nat
  ninetyFifth : Nat
  average : Nat
  longest : Nat

namespace Report

def fired (r : Report) : Nat := r.events * r.threads

/-- The value at a percentile of ascending values: the one at the nearest index, the higher of two. -/
def percentile (percent : Nat) (ascending : List Nat) : Nat :=
  (ascending[((ascending.length - 1) * percent + 50) / 100]?).getD 0

def ofTally (threads events wall : Nat) (t : Tally) : Report :=
  let ascending := t.latencies.mergeSort fun a b => decide (a ≤ b)
  { threads, events, wall
    delivered := t.delivered
    violations := t.violations
    median := percentile 50 ascending
    ninetyFifth := percentile 95 ascending
    average := ascending.foldl Nat.add 0 / ascending.length
    longest := (ascending.getLast?).getD 0 }

def threeDigits (n : Nat) : List Char :=
  [Nat.digitChar (n / 100 % 10), Nat.digitChar (n / 10 % 10), Nat.digitChar (n % 10)]

/-- Microseconds as milliseconds, with three places. -/
def millis (micros : Nat) : String :=
  Text.decimal (micros / 1000) ++ "." ++ String.ofList (threeDigits micros)

/-- A number of milliseconds without zeros at the end, but with one place at least. -/
def millisNumeral (micros : Nat) : Numeral :=
  let places :=
    match (threeDigits micros).reverse.dropWhile (· == '0') with
    | [] => ['0']
    | kept => kept.reverse
  ⟨false, Nat.toDigits 10 (micros / 1000), places, none⟩

def toJson (r : Report) : Json :=
  .object [
    ("threads", .number (Numeral.ofNat r.threads)),
    ("events_per_thread", .number (Numeral.ofNat r.events)),
    ("fired", .number (Numeral.ofNat r.fired)),
    ("delivered", .number (Numeral.ofNat r.delivered)),
    ("fifo_violations", .number (Numeral.ofNat r.violations)),
    ("wall_ms", .number (millisNumeral r.wall)),
    ("p50_latency_ms", .number (millisNumeral r.median)),
    ("p95_latency_ms", .number (millisNumeral r.ninetyFifth)),
    ("avg_latency_ms", .number (millisNumeral r.average)),
    ("max_latency_ms", .number (millisNumeral r.longest))]

def summary (r : Report) : String :=
  s!"Done. delivered={r.delivered}/{r.fired} p50={millis r.median}ms p95={millis r.ninetyFifth}ms " ++
    s!"fifo_violations={r.violations}"

end Report

end SpokenIntent
