import SpokenIntent.Text.Digits
import SpokenIntent.Text.Split

/-!
Shots and the tally of those that arrive. A shot is written `thread:seq:micros`: the thread that
fires it, its number in that thread, and the time of firing. A thread numbers its shots upwards, so a
shot that arrives with a number no greater than that of the shot before it, of the same thread, has
been overtaken.
-/

namespace SpokenIntent

structure Shot where
  thread : Nat
  seq : Nat
  micros : Nat
  deriving DecidableEq

namespace Shot

def text (s : Shot) : String :=
  Text.decimal s.thread ++ ":" ++ Text.decimal s.seq ++ ":" ++ Text.decimal s.micros

/-- Numbers in the text of a shot are below this bound. -/
def fieldBound : Nat := Nat.pow 2 128

/-- Threads and their shots are counted in words of 64 bits. -/
def countBound : Nat := Nat.pow 2 64

/-- The shot that a text denotes; what follows the third field does not matter. -/
def ofText? (text : String) : Option Shot :=
  match Text.pieces ':' text with
  | thread :: seq :: micros :: _ =>
    match Text.readSignedBelow fieldBound thread, Text.readSignedBelow fieldBound seq,
      Text.readSignedBelow fieldBound micros with
    | some thread, some seq, some micros => some ⟨thread % countBound, seq % countBound, micros⟩
    | _, _, _ => none
  | _ => none

end Shot

/-- The latencies are in microseconds, that of the shot that came last in front; `last` has the number
of the last shot of each thread. -/
structure Tally where
  delivered : Nat
  latencies : List Nat
  last : List (Nat × Nat)
  violations : Nat
  deriving DecidableEq

namespace Tally

def empty : Tally := ⟨0, [], [], 0⟩

def last? (thread : Nat) : List (Nat × Nat) → Option Nat
  | [] => none
  | (t, seq) :: rest => if t = thread then some seq else last? thread rest

def putLast (thread seq : Nat) : List (Nat × Nat) → List (Nat × Nat)
  | [] => [(thread, seq)]
  | (t, old) :: rest =>
    if t = thread then (thread, seq) :: rest else (t, old) :: putLast thread seq rest

def overtaken (t : Tally) (s : Shot) : Bool :=
  (last? s.thread t.last).any fun last => s.seq ≤ last

/-- Counts a shot that arrives at the time `now`. -/
def record (now : Nat) (t : Tally) (s : Shot) : Tally where
  delivered := t.delivered + 1
  latencies := (now - s.micros) :: t.latencies
  last := putLast s.thread s.seq t.last
  violations := if t.overtaken s then t.violations + 1 else t.violations

/-- Counts what a text denotes; other texts do not count. -/
def recordText (now : Nat) (t : Tally) (text : String) : Tally :=
  match Shot.ofText? text with
  | none => t
  | some s => t.record now s

end Tally

end SpokenIntent
