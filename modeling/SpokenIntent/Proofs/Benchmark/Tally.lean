import Mathlib.Data.List.Chain
import SpokenIntent.Benchmark.Tally
import SpokenIntent.Proofs.Text.Digits

/-!
What the tally of shots comes to. Of each thread it remembers the shot that came last, and that is enough: it
counts the shots whose number is no greater than that of the shot of their thread before them, and there is one
as soon as the numbers of any thread do not ascend.
-/

namespace SpokenIntent

open Text

namespace Shot

/-! ### Shots in writing -/

/-- Three numbers between colons, each written in digits, with or without zeros in front. -/
def Written (s : Shot) (text : String) : Prop :=
  ∃ thread seq micros, text.toList = thread ++ ':' :: (seq ++ ':' :: micros) ∧
    Denotes thread s.thread ∧ Denotes seq s.seq ∧ Denotes micros s.micros

theorem text_written (s : Shot) : s.Written s.text := by
  refine ⟨_, _, _, ?_, toDigits_denotes s.thread, toDigits_denotes s.seq, toDigits_denotes s.micros⟩
  simp [text, decimal]

theorem colon_notMem {run : List Char} {n : Nat} (denotes : Denotes run n) : ':' ∉ run := by
  intro member
  have digit := denotes.digits ':' member
  exact absurd digit (by decide)

theorem Written.pieces {s : Shot} {text : String} (written : s.Written text) :
    ∃ thread seq micros, Text.pieces ':' text = [String.ofList thread, String.ofList seq, String.ofList micros] ∧
      Denotes thread s.thread ∧ Denotes seq s.seq ∧ Denotes micros s.micros := by
  obtain ⟨thread, seq, micros, parts, first, second, third⟩ := written
  refine ⟨thread, seq, micros, ?_, first, second, third⟩
  rw [Text.pieces, parts, splitAt_piece (colon_notMem first), splitAt_piece (colon_notMem second),
    splitAt_whole (colon_notMem third)]
  rfl

/-- Both counts of a shot fit into a word. -/
def Counted (s : Shot) : Prop := s.thread < UInt64.size ∧ s.seq < UInt64.size

instance (s : Shot) : Decidable s.Counted := inferInstanceAs (Decidable (_ ∧ _))

/-- The time of a shot fits into a field. -/
def Timed (s : Shot) : Prop := s.micros < fieldBound

instance (s : Shot) : Decidable s.Timed := inferInstanceAs (Decidable (_ < _))

theorem filter_timed {shots : List Shot} (timed : ∀ s ∈ shots, s.Timed) : (shots.filter fun s => s.Timed) = shots := by
  apply List.filter_eq_self.mpr
  intro s member
  exact decide_eq_true (timed s member)

theorem ofText?_written {s : Shot} {text : String} (written : s.Written text) (counted : s.Counted) :
    ofText? text = if s.Timed then some s else none := by
  obtain ⟨thread, seq, micros, parts, first, second, third⟩ := written.pieces
  obtain ⟨threads, seqs⟩ := counted
  have word : countBound = UInt64.size := rfl
  have wide : UInt64.size ≤ fieldBound := by decide
  have threadRead : readSignedBelow fieldBound (String.ofList thread) = some s.thread := by
    rw [first.readSignedBelow_eq, if_pos (by omega)]
  have seqRead : readSignedBelow fieldBound (String.ofList seq) = some s.seq := by
    rw [second.readSignedBelow_eq, if_pos (by omega)]
  simp only [ofText?, parts, threadRead, seqRead, third.readSignedBelow_eq]
  by_cases timed : s.micros < fieldBound
  · simp [Timed, timed, word, Nat.mod_eq_of_lt threads, Nat.mod_eq_of_lt seqs]
  · simp [Timed, timed]

/-! ### Shots that are overtaken -/

def ofThread (thread : Nat) (shots : List Shot) : List Shot :=
  shots.filter fun s => s.thread = thread

/-- A shot that comes after the others, with a number no greater than that of the last one of its thread. -/
def Behind (before : List Shot) (s : Shot) : Prop :=
  ∃ last ∈ (ofThread s.thread before).getLast?, s.seq ≤ last.seq

instance (before : List Shot) (s : Shot) : Decidable (Behind before s) :=
  inferInstanceAs (Decidable (∃ last ∈ (ofThread s.thread before).getLast?, s.seq ≤ last.seq))

/-- The shot at a place is behind those before it. -/
def BehindAt (shots : List Shot) (i : Nat) : Prop := ∃ s ∈ shots[i]?, Behind (shots.take i) s

instance (shots : List Shot) (i : Nat) : Decidable (BehindAt shots i) :=
  inferInstanceAs (Decidable (∃ s ∈ shots[i]?, Behind (shots.take i) s))

def overtakings (shots : List Shot) : Nat :=
  (List.range shots.length).countP fun i => BehindAt shots i

theorem ofThread_snoc (thread : Nat) (shots : List Shot) (s : Shot) :
    ofThread thread (shots ++ [s]) = ofThread thread shots ++ if s.thread = thread then [s] else [] := by
  by_cases same : s.thread = thread <;> simp [ofThread, same]

theorem overtakings_snoc (shots : List Shot) (s : Shot) :
    overtakings (shots ++ [s]) = overtakings shots + if Behind shots s then 1 else 0 := by
  have earlier : (List.range shots.length).countP (fun i => BehindAt (shots ++ [s]) i) = overtakings shots := by
    apply List.countP_congr
    intro i member
    have within : i < shots.length := List.mem_range.mp member
    simp [BehindAt, List.getElem?_append_left within, List.take_append_of_le_length (Nat.le_of_lt within)]
  have latest : BehindAt (shots ++ [s]) shots.length ↔ Behind shots s := by
    simp [BehindAt]
  rw [overtakings, List.length_append, List.length_singleton, List.range_succ, List.countP_append, earlier,
    List.countP_singleton]
  simp only [decide_eq_true_eq, latest]

/-- The numbers of each thread ascend. -/
def InOrder (shots : List Shot) : Prop :=
  ∀ thread, ((ofThread thread shots).map Shot.seq).Pairwise (· < ·)

theorem inOrder_snoc (shots : List Shot) (s : Shot) : InOrder (shots ++ [s]) ↔ InOrder shots ∧ ¬ Behind shots s := by
  have chained (thread : Nat) : ((ofThread thread (shots ++ [s])).map Shot.seq).Pairwise (· < ·) ↔
      ((ofThread thread shots).map Shot.seq).Pairwise (· < ·) ∧ (s.thread = thread → ¬ Behind shots s) := by
    rw [ofThread_snoc, List.map_append]
    by_cases same : s.thread = thread
    · subst same
      simp only [← List.isChain_iff_pairwise, ↓reduceIte, List.map_singleton, List.isChain_append]
      simp [Behind]
    · simp [same]
  simp only [InOrder, chained, forall_and]
  simp

theorem overtakings_eq_zero (shots : List Shot) : overtakings shots = 0 ↔ InOrder shots := by
  induction shots using List.reverseRecOn with
  | nil => simp [overtakings, InOrder, ofThread]
  | append_singleton shots s ih =>
      rw [overtakings_snoc, inOrder_snoc, ← ih, Nat.add_eq_zero_iff]
      simp

end Shot

/-! ### The tally -/

namespace Tally

open Shot

theorem last?_putLast (other thread seq : Nat) (entries : List (Nat × Nat)) :
    last? other (putLast thread seq entries) = if thread = other then some seq else last? other entries := by
  induction entries with
  | nil => rfl
  | cons entry rest ih =>
      obtain ⟨t, old⟩ := entry
      rw [putLast]
      by_cases known : t = thread
      · subst known
        simp only [↓reduceIte, last?]
        split_ifs <;> rfl
      · simp only [known, ↓reduceIte, last?, ih]
        by_cases same : thread = other
        · subst same
          simp [known]
        · simp [same]

/-- The tally of these shots: how many there are, the last of each thread, and how many are overtaken. -/
structure Counts (t : Tally) (shots : List Shot) : Prop where
  delivered : t.delivered = shots.length
  last : ∀ thread, last? thread t.last = (ofThread thread shots).getLast?.map Shot.seq
  violations : t.violations = overtakings shots

theorem empty_counts : empty.Counts [] := ⟨rfl, fun _ => rfl, rfl⟩

theorem Counts.overtaken_iff {t : Tally} {shots : List Shot} (counts : t.Counts shots) (s : Shot) :
    t.overtaken s = true ↔ Behind shots s := by
  rw [overtaken, counts.last, Behind]
  cases (ofThread s.thread shots).getLast? <;> simp

theorem record_counts (now : Nat) {t : Tally} {shots : List Shot} (s : Shot) (counts : t.Counts shots) :
    (t.record now s).Counts (shots ++ [s]) where
  delivered := by simp [record, counts.delivered]
  last := by
    intro thread
    rw [record, last?_putLast, ofThread_snoc]
    by_cases same : s.thread = thread
    · simp [same]
    · simp [same, counts.last]
  violations := by
    rw [overtakings_snoc, record]
    simp only [counts.overtaken_iff, counts.violations]
    split_ifs <;> rfl

theorem recordText_counts (now : Nat) {t : Tally} {before : List Shot} {s : Shot} {text : String}
    (written : s.Written text) (counted : s.Counted) (counts : t.Counts before) :
    (t.recordText now text).Counts (before ++ [s].filter fun s => s.Timed) := by
  rw [recordText, ofText?_written written counted]
  by_cases timed : s.Timed
  · simpa [timed] using record_counts now s counts
  · simpa [timed] using counts

end Tally

end SpokenIntent
