import SpokenIntent.Proofs.Text.Trim
import SpokenIntent.Text.Lowercase

/-!
Lower case again: what is in lower case is left as it is. Lowering makes no blank and no period, and
takes none away, so the ends of a text stay bare of them.
-/

namespace SpokenIntent.Text

/-- A character that is its own lower case, wherever it stands. -/
structure Settled (c : Char) : Prop where
  notSigma : c ≠ '\u03A3'
  fixed : lowerAlone c = [c]

/-- What there is to say of a character `d` in the lower case of `c`. -/
structure Lowers (c d : Char) : Prop where
  settled : Settled d
  blank : isBlank d = isBlank c
  period : d = '.' ↔ c = '.'

/-! ### The table -/

namespace CaseRun

def image (run : CaseRun) (n : Nat) : Nat := (n + run.shift).toNat

/-- No character of `run`, whose images lie between `low` and `high`, has its lower case in `other`: the two
do not meet, or they alternate. Numbers are compared by `Nat.blt`, which is evaluated at once. -/
def misses (run : CaseRun) (low high : Nat) (other : CaseRun) : Bool :=
  high.blt other.first || other.last.blt low ||
    (other.step == 2 && (run.step == 2 || run.first == run.last) && 0 ≤ run.first + run.shift &&
      (low + other.first) % 2 == 1)

theorem holds_iff (run : CaseRun) (n : Nat) :
    run.holds n = true ↔ (run.first ≤ n ∧ n ≤ run.last) ∧ (n - run.first) % run.step = 0 := by
  simp [holds]

theorem holds_misses {run other : CaseRun} {n : Nat}
    (apart : run.misses (run.image run.first) (run.image run.last) other = true)
    (member : run.holds n = true) : other.holds (run.image n) = false := by
  rw [Bool.eq_false_iff]
  intro meets
  obtain ⟨⟨low, high⟩, stride⟩ := (holds_iff run n).mp member
  obtain ⟨⟨low', high'⟩, stride'⟩ := (holds_iff other _).mp meets
  simp only [misses, Bool.and_eq_true, Bool.or_eq_true, decide_eq_true_eq, beq_iff_eq, Nat.blt_eq] at apart
  simp only [image] at apart low' high' stride'
  -- disjoint ranges, or two that take every other number and never the same
  obtain (below | above) | ⟨⟨⟨two', two | one⟩, small⟩, parity⟩ := apart
  · omega
  · omega
  · rw [two'] at stride'
    rw [two] at stride
    omega
  · rw [two'] at stride'
    omega

/-- Whether no code between `low` and `high` lies in one of the ranges. -/
def clear (ranges : List (Nat × Nat)) (low high : Nat) : Bool :=
  ranges.all fun r => r.2.blt low || high.blt r.1

theorem not_clear {ranges : List (Nat × Nat)} {low high n : Nat} (free : clear ranges low high = true)
    (between : low ≤ n ∧ n ≤ high) : ¬ ∃ r ∈ ranges, r.1 ≤ n ∧ n ≤ r.2 := by
  rintro ⟨r, known, inside⟩
  have apart := List.all_eq_true.mp free r known
  simp only [Bool.or_eq_true, Nat.blt_eq] at apart
  omega

/-- The blanks, as ranges of codes. -/
def blankRanges : List (Nat × Nat) :=
  [(0x9, 0xD), (0x20, 0x20), (0x85, 0x85), (0xA0, 0xA0), (0x1680, 0x1680), (0x2000, 0x200A), (0x2028, 0x2028),
    (0x2029, 0x2029), (0x202F, 0x202F), (0x205F, 0x205F), (0x3000, 0x3000)]

/-- A period, the dotted capital I and the capital sigma. -/
def otherRanges : List (Nat × Nat) := [(0x2E, 0x2E), (0x130, 0x130), (0x3A3, 0x3A3)]

/-- Letters that the table maps are no blanks; their images are none either, nor other special characters,
and they are in lower case when they are ASCII. -/
def plain (run : CaseRun) (low high : Nat) : Bool :=
  clear blankRanges run.first run.last && clear blankRanges low high && clear otherRanges low high &&
    (high.blt 0xD800 || Nat.blt 0xDFFF low && high.blt 0x110000) &&
    (Nat.ble 0x80 low || low == high && (Char.ofNat low).toLower == Char.ofNat low)

/-- Whether `run` misses all runs of the table. They ascend: those that end below `low` stand first, and of the
others only the first can begin below `high`. -/
def missesAll (run : CaseRun) (low high : Nat) : Bool :=
  match lowercaseRuns.dropWhile fun other => other.last.blt low with
  | [] => true
  | other :: rest => run.misses low high other && rest.head?.all fun next => high.blt next.first

theorem runs_table :
    (lowercaseRuns.IsChain fun run next => run.first.ble next.first = true) ∧
      ∀ run ∈ lowercaseRuns,
        run.plain (run.image run.first) (run.image run.last) = true ∧
          run.missesAll (run.image run.first) (run.image run.last) = true := by
  decide +kernel

theorem misses_of_missesAll {run other : CaseRun} {low high : Nat} (all : run.missesAll low high = true)
    (known : other ∈ lowercaseRuns) : run.misses low high other = true := by
  have ascending : lowercaseRuns.Pairwise fun r r' => r.first ≤ r'.first :=
    List.isChain_iff_pairwise.mp (runs_table.1.imp fun _ _ => Nat.le_of_ble_eq_true)
  have tail := ascending.sublist (List.dropWhile_sublist fun r => r.last.blt low)
  rw [← List.takeWhile_append_dropWhile (p := fun r => r.last.blt low) (l := lowercaseRuns)] at known
  rcases List.mem_append.mp known with below | rest
  · have ends := List.mem_takeWhile_imp below
    simp [misses, ends]
  · rw [missesAll] at all
    cases left : lowercaseRuns.dropWhile fun r => r.last.blt low with
    | nil =>
        rw [left] at rest
        cases rest
    | cons first later =>
        rw [left] at rest tail
        simp only [left, Bool.and_eq_true] at all
        rcases List.mem_cons.mp rest with rfl | beyond
        · exact all.1
        · cases later with
          | nil => cases beyond
          | cons next others =>
              have begins : high.blt next.first = true := all.2
              have after : next.first ≤ other.first := by
                rcases List.mem_cons.mp beyond with rfl | further
                · exact le_rfl
                · exact List.rel_of_pairwise_cons (List.pairwise_cons.mp tail).2 further
              have above : high.blt other.first = true :=
                Nat.blt_eq.mpr (Nat.lt_of_lt_of_le (Nat.blt_eq.mp begins) after)
              simp [misses, above]

theorem image_between {run : CaseRun} {n : Nat} (member : run.holds n = true) :
    run.image run.first ≤ run.image n ∧ run.image n ≤ run.image run.last := by
  have between := ((holds_iff run n).mp member).1
  simp only [image]
  omega

end CaseRun

theorem isBlank_iff (c : Char) :
    isBlank c = true ↔ ∃ r ∈ CaseRun.blankRanges, r.1 ≤ c.toNat ∧ c.toNat ≤ r.2 := by
  have only (n k : Nat) : n = k ↔ k ≤ n ∧ n ≤ k := by omega
  simp only [isBlank, CaseRun.blankRanges, Bool.or_eq_true, Bool.and_eq_true, decide_eq_true_eq, beq_iff_eq,
    List.mem_cons, List.not_mem_nil, or_false, exists_eq_or_imp, exists_eq_left, or_assoc, only c.toNat]

/-! ### One character -/

theorem image_plain {run : CaseRun} (known : run ∈ lowercaseRuns) {c d : Char}
    (held : run.holds c.toNat = true) (image : d = Char.ofNat (run.image c.toNat)) :
    d.toNat = run.image c.toNat ∧ (isBlank c = false ∧ isBlank d = false) ∧
      (d ≠ '.' ∧ d ≠ '\u0130' ∧ d ≠ '\u03A3') ∧ (0x80 ≤ d.toNat ∨ d.toLower = d) := by
  have well := (CaseRun.runs_table.2 run known).1
  simp only [CaseRun.plain, Bool.and_eq_true, Bool.or_eq_true, Nat.blt_eq, Nat.ble_eq, beq_iff_eq] at well
  obtain ⟨⟨⟨⟨blanks, blanks'⟩, others⟩, valid⟩, lowercase⟩ := well
  have here := ((CaseRun.holds_iff run _).mp held).1
  have between := CaseRun.image_between held
  have allowed : (run.image c.toNat).isValidChar := by
    simp only [Nat.isValidChar]
    omega
  have code : d.toNat = run.image c.toNat := by
    have made : Char.ofNat (run.image c.toNat) = Char.ofNatAux _ allowed := dif_pos allowed
    rw [image, made]
    rfl
  have other (e : Char) (special : e.toNat = 0x2E ∨ e.toNat = 0x130 ∨ e.toNat = 0x3A3) : d ≠ e := by
    rintro rfl
    refine CaseRun.not_clear others between ⟨(d.toNat, d.toNat), ?_, by simp [code]⟩
    simp only [CaseRun.otherRanges, List.mem_cons, List.not_mem_nil, or_false, Prod.mk.injEq, and_self]
    exact special
  refine ⟨code, ⟨?_, ?_⟩, ⟨other _ (by decide), other _ (by decide), other _ (by decide)⟩, ?_⟩
  · rw [← Bool.not_eq_true, isBlank_iff]
    exact CaseRun.not_clear blanks here
  · rw [← Bool.not_eq_true, isBlank_iff, code]
    exact CaseRun.not_clear blanks' between
  · obtain wide | ⟨single, fixed⟩ := lowercase
    · exact .inl (by omega)
    · right
      rwa [image, show run.image c.toNat = run.image run.first by omega]

theorem ascii_lowers : ∀ n < 0x80,
    let c := Char.ofNat n
    (c.toLower.toLower = c.toLower ∧ c.toLower.toNat < 0x80) ∧
      isBlank c.toLower = isBlank c ∧ (c.toLower = '.' ↔ c = '.') := by
  decide +kernel

/-- What a character becomes that stands alone: in ASCII, the one that becomes two, those of the table, and all
others. -/
inductive LowersTo (c : Char) : List Char → Prop where
  | ascii (small : c.toNat < 0x80) : LowersTo c [c.toLower]
  | dotted (capital : c = '\u0130') : LowersTo c ['i', '\u0307']
  | letter {run : CaseRun} (wide : 0x80 ≤ c.toNat) (undotted : c ≠ '\u0130') (known : run ∈ lowercaseRuns)
      (held : run.holds c.toNat = true) : LowersTo c [Char.ofNat (run.image c.toNat)]
  | other (undotted : c ≠ '\u0130') (same : lowerAlone c = [c]) : LowersTo c [c]

theorem lowerAlone_lowersTo (c : Char) : LowersTo c (lowerAlone c) := by
  by_cases small : c.toNat < 0x80
  · rw [lowerAlone, if_pos small]
    exact .ascii small
  · by_cases capital : c = '\u0130'
    · rw [lowerAlone, if_neg small, if_pos capital]
      exact .dotted capital
    · cases found : lowercaseRuns.find? (CaseRun.holds · c.toNat) with
      | some run =>
          rw [lowerAlone, if_neg small, if_neg capital, found]
          exact .letter (Nat.le_of_not_lt small) capital (List.mem_of_find?_eq_some found)
            (by simpa using List.find?_some found)
      | none =>
          have same : lowerAlone c = [c] := by rw [lowerAlone, if_neg small, if_neg capital, found]
          rw [same]
          exact .other capital same

theorem lowerAlone_ne_nil (c : Char) : lowerAlone c ≠ [] := by
  intro empty
  have lowersTo := lowerAlone_lowersTo c
  rw [empty] at lowersTo
  cases lowersTo

theorem lowerAlone_lowers (c : Char) (notSigma : c ≠ '\u03A3') : ∀ d ∈ lowerAlone c, Lowers c d := by
  intro d member
  have lowersTo := lowerAlone_lowersTo c
  generalize lowerAlone c = lowered at lowersTo member
  cases lowersTo with
  | ascii ascii =>
      obtain ⟨⟨again, small⟩, blank, period⟩ := ascii_lowers c.toNat ascii
      simp only [Char.ofNat_toNat] at again small blank period
      obtain rfl := List.mem_singleton.mp member
      refine ⟨⟨?_, by simp [lowerAlone, small, again]⟩, blank, period⟩
      intro sigma
      rw [sigma] at small
      exact absurd small (by decide)
  | dotted capital =>
      subst capital
      have fixed : lowerAlone 'i' = ['i'] ∧ lowerAlone '\u0307' = ['\u0307'] := ⟨rfl, rfl⟩
      obtain rfl | rfl : d = 'i' ∨ d = '\u0307' := by simpa using member
      · exact ⟨⟨by decide, fixed.1⟩, by decide, by decide⟩
      · exact ⟨⟨by decide, fixed.2⟩, by decide, by decide⟩
  | letter wide _ known held =>
      have image := List.mem_singleton.mp member
      obtain ⟨code, ⟨blank, blank'⟩, ⟨period, undotted, notSigma'⟩, lowercase⟩ := image_plain known held image
      -- the image is no letter of the table in its turn
      have absent : lowercaseRuns.find? (CaseRun.holds · d.toNat) = none := by
        apply List.find?_eq_none.mpr
        intro other knownToo
        have apart := CaseRun.misses_of_missesAll (CaseRun.runs_table.2 _ known).2 knownToo
        simp [code, CaseRun.holds_misses apart held]
      refine ⟨⟨notSigma', ?_⟩, by rw [blank, blank'], iff_of_false period ?_⟩
      · simp only [lowerAlone, undotted, absent, ↓reduceIte]
        split
        · next ascii => rw [lowercase.resolve_left (by omega)]
        · rfl
      · rintro rfl
        exact absurd wide (by decide)
  | other _ same =>
      obtain rfl := List.mem_singleton.mp member
      exact ⟨⟨notSigma, same⟩, rfl, Iff.rfl⟩

/-! ### Texts -/

/-- The lower case of a character that stands between `before` and `after`. -/
def lowerBetween (before : List Char) (c : Char) (after : List Char) : List Char :=
  if c = '\u03A3' then [if meetsCased before && !meetsCased after then '\u03C2' else '\u03C3']
  else lowerAlone c

theorem lowerAfter_cons (before : List Char) (c : Char) (after : List Char) :
    lowerAfter before (c :: after) = lowerBetween before c after ++ lowerAfter (c :: before) after := rfl

theorem lowerBetween_lowers (before : List Char) (c : Char) (after : List Char) :
    lowerBetween before c after ≠ [] ∧ ∀ d ∈ lowerBetween before c after, Lowers c d := by
  by_cases sigma : c = '\u03A3'
  · subst sigma
    have fixed : lowerAlone '\u03C2' = ['\u03C2'] ∧ lowerAlone '\u03C3' = ['\u03C3'] := ⟨rfl, rfl⟩
    have final : Lowers '\u03A3' '\u03C2' := ⟨⟨by decide, fixed.1⟩, by decide, by decide⟩
    have inner : Lowers '\u03A3' '\u03C3' := ⟨⟨by decide, fixed.2⟩, by decide, by decide⟩
    simp only [lowerBetween, ↓reduceIte]
    split <;> simp [final, inner]
  · simp only [lowerBetween, sigma, ↓reduceIte]
    exact ⟨lowerAlone_ne_nil c, lowerAlone_lowers c sigma⟩

theorem lowerAfter_settled (before : List Char) (cs : List Char) :
    ∀ d ∈ lowerAfter before cs, Settled d := by
  induction cs generalizing before with
  | nil => simp [lowerAfter]
  | cons c after ih =>
      intro d member
      rw [lowerAfter_cons, List.mem_append] at member
      obtain here | later := member
      · exact ((lowerBetween_lowers before c after).2 d here).settled
      · exact ih _ d later

/-- What is settled stays, whatever comes after it. -/
theorem lowerAfter_fixed {cs : List Char} (settled : ∀ c ∈ cs, Settled c) (before after : List Char) :
    lowerAfter before (cs ++ after) = cs ++ lowerAfter (cs.reverse ++ before) after := by
  induction cs generalizing before with
  | nil => rfl
  | cons c rest ih =>
      obtain ⟨notSigma, fixed⟩ := settled c List.mem_cons_self
      rw [List.cons_append, lowerAfter_cons, ih fun d member => settled d (List.mem_cons_of_mem _ member)]
      simp [lowerBetween, notSigma, fixed]

theorem lowerAfter_eq_self {cs : List Char} (settled : ∀ c ∈ cs, Settled c) (before : List Char) :
    lowerAfter before cs = cs := by
  simpa [lowerAfter] using lowerAfter_fixed settled before []

theorem lowerAfter_eq_nil {before cs : List Char} : lowerAfter before cs = [] ↔ cs = [] := by
  cases cs with
  | nil => simp [lowerAfter]
  | cons c after => simp [lowerAfter_cons, (lowerBetween_lowers before c after).1]

/-- A text begins with the lower case of what it began with, and ends likewise. -/
theorem lowerAfter_ends (before cs : List Char) :
    (∀ d ∈ (lowerAfter before cs).head?, ∃ c ∈ cs.head?, ∃ b a, d ∈ (lowerBetween b c a).head?) ∧
    (∀ d ∈ (lowerAfter before cs).getLast?, ∃ c ∈ cs.getLast?, ∃ b a, d ∈ (lowerBetween b c a).getLast?) := by
  induction cs generalizing before with
  | nil => simp [lowerAfter]
  | cons c after ih =>
      have some := (lowerBetween_lowers before c after).1
      rw [lowerAfter_cons, List.head?_append_of_ne_nil _ some]
      constructor
      · intro d first
        exact ⟨c, rfl, before, after, first⟩
      · intro d last
        cases after with
        | nil =>
            rw [lowerAfter, List.append_nil] at last
            exact ⟨c, rfl, before, [], last⟩
        | cons e more =>
            -- no character is lowered to nothing, so the last one is a later one's
            have rest : lowerAfter (c :: before) (e :: more) ≠ [] := by simp [lowerAfter_eq_nil]
            rw [List.getLast?_append_of_ne_nil _ rest] at last
            rw [List.getLast?_cons_cons]
            exact (ih _).2 d last

theorem lowerAfter_bare {cs : List Char} (bare : Bare isBlank cs) (before : List Char) :
    Bare isBlank (lowerAfter before cs) where
  head d first := by
    obtain ⟨c, here, b, a, lowers⟩ := (lowerAfter_ends before cs).1 d first
    rw [((lowerBetween_lowers b c a).2 d (List.mem_of_mem_head? lowers)).blank, bare.head c here]
  last d last := by
    obtain ⟨c, here, b, a, lowers⟩ := (lowerAfter_ends before cs).2 d last
    rw [((lowerBetween_lowers b c a).2 d (List.mem_of_mem_getLast? lowers)).blank, bare.last c here]

theorem lower_eq_self {s : String} (settled : ∀ c ∈ s.toList, Settled c) : lower s = s := by
  rw [lower, lowerAfter_eq_self settled, String.ofList_toList]

@[simp] theorem lower_lower (s : String) : lower (lower s) = lower s := by
  apply lower_eq_self
  rw [lower, String.toList_ofList]
  exact lowerAfter_settled [] s.toList

/-! ### What lies beyond -/

section Beyond
variable {far : List Char}

theorem meetsCased_uncased (uncased : ∀ c ∈ far, isCased c = false) : meetsCased far = false := by
  rw [meetsCased]
  split
  · rfl
  · next c rest left =>
    have first : c ∈ far.dropWhile isCaseIgnorable := by simp [left]
    exact uncased c ((List.dropWhile_sublist _).subset first)

/-- Where no cased letter is met, what lies nearer decides. -/
theorem meetsCased_append (unmet : meetsCased far = false) (near : List Char) :
    meetsCased (near ++ far) = meetsCased near := by
  induction near with
  | nil => simpa [meetsCased] using unmet
  | cons c near ih =>
      by_cases ignored : isCaseIgnorable c = true
      · simpa [meetsCased, ignored] using ih
      · simp [meetsCased, ignored]

theorem lowerAfter_beyond (unmet : meetsCased far = false) (near cs : List Char) :
    lowerAfter (near ++ far) cs = lowerAfter near cs := by
  induction cs generalizing near with
  | nil => rfl
  | cons c after ih =>
      have tail := ih (c :: near)
      rw [List.cons_append] at tail
      rw [lowerAfter_cons, lowerAfter_cons, tail, lowerBetween, lowerBetween, meetsCased_append unmet]

theorem lowerAfter_append (unmet : meetsCased far = false) (before cs : List Char) :
    lowerAfter before (cs ++ far) = lowerAfter before cs ++ lowerAfter (cs.reverse ++ before) far := by
  induction cs generalizing before with
  | nil => rfl
  | cons c rest ih =>
      rw [List.cons_append, lowerAfter_cons, lowerAfter_cons, ih, lowerBetween, lowerBetween, meetsCased_append unmet]
      simp

end Beyond

end SpokenIntent.Text
