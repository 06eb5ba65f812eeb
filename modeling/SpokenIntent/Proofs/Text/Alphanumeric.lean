import Mathlib.Data.List.Chain
import SpokenIntent.Proofs.Text.Lowercase
import SpokenIntent.Text.Alphanumeric

/-!
Letters with a case. A letter of the table of lower cases is cased, and so is its lower case; and all that is cased
is alphanumeric.
-/

namespace SpokenIntent.Text

/-! ### Ranges -/

/-- The ranges ascend, as the search for a character supposes. -/
def Ascending (ranges : List (Nat × Nat)) : Prop := ranges.Pairwise fun r r' => r.1 ≤ r'.1

theorem inRanges_iff {ranges : List (Nat × Nat)} (ascending : Ascending ranges) (n : Nat) :
    inRanges n ranges = true ↔ ∃ r ∈ ranges, r.1 ≤ n ∧ n ≤ r.2 := by
  induction ranges with
  | nil => simp [inRanges]
  | cons r rest ih =>
      rcases List.pairwise_cons.mp ascending with ⟨first, later⟩
      simp only [inRanges, Bool.and_eq_true, Bool.or_eq_true, Bool.not_eq_true', decide_eq_false_iff_not,
        decide_eq_true_eq, List.mem_cons, exists_eq_or_imp, ih later]
      constructor
      · rintro ⟨above, within | further⟩
        · exact .inl ⟨by omega, within⟩
        · exact .inr further
      · rintro (⟨low, high⟩ | ⟨r', known, low, high⟩)
        · exact ⟨by omega, .inl high⟩
        · have before := first r' known
          exact ⟨by omega, .inr ⟨r', known, low, high⟩⟩

theorem ascending_of_chain {ranges : List (Nat × Nat)} (chain : ranges.IsChain fun r r' => Nat.ble r.1 r'.1 = true) :
    Ascending ranges := by
  have steps : ranges.IsChain fun r r' => r.1 ≤ r'.1 := chain.imp fun _ _ => Nat.le_of_ble_eq_true
  exact List.isChain_iff_pairwise.mp steps

/-! ### What is alphanumeric -/

theorem alphanumericRanges_table :
    (alphanumericRanges.IsChain fun r r' => Nat.ble r.1 r'.1 = true) ∧
      ∀ r ∈ alphanumericRanges, Nat.ble 0x80 r.1 = true := by
  decide +kernel

/-- The digits and letters of ASCII, and the others. -/
def alphanumericSpans : List (Nat × Nat) := (0x30, 0x39) :: (0x41, 0x5A) :: (0x61, 0x7A) :: alphanumericRanges

theorem isAlphanum_iff (c : Char) : c.isAlphanum = true ↔
    (0x30 ≤ c.toNat ∧ c.toNat ≤ 0x39) ∨ (0x41 ≤ c.toNat ∧ c.toNat ≤ 0x5A) ∨ (0x61 ≤ c.toNat ∧ c.toNat ≤ 0x7A) := by
  have upper : c.isUpper = true ↔ 0x41 ≤ c.toNat ∧ c.toNat ≤ 0x5A := decide_eq_true_iff
  have lower : c.isLower = true ↔ 0x61 ≤ c.toNat ∧ c.toNat ≤ 0x7A :=
    Bool.and_eq_true_iff.trans (and_congr decide_eq_true_iff decide_eq_true_iff)
  have digit : c.isDigit = true ↔ 0x30 ≤ c.toNat ∧ c.toNat ≤ 0x39 :=
    Bool.and_eq_true_iff.trans (and_congr decide_eq_true_iff decide_eq_true_iff)
  have parts : c.isAlphanum = ((c.isUpper || c.isLower) || c.isDigit) := rfl
  rw [parts, Bool.or_eq_true, Bool.or_eq_true, upper, lower, digit]
  omega

theorem isAlphanumeric_iff (c : Char) :
    isAlphanumeric c = true ↔ ∃ r ∈ alphanumericSpans, r.1 ≤ c.toNat ∧ c.toNat ≤ r.2 := by
  rcases alphanumericRanges_table with ⟨chain, wide⟩
  simp only [alphanumericSpans, List.mem_cons, exists_eq_or_imp, isAlphanumeric]
  split
  · next ascii =>
    rw [isAlphanum_iff]
    constructor
    · rintro (digit | upper | lower)
      · exact .inl digit
      · exact .inr (.inl upper)
      · exact .inr (.inr (.inl lower))
    · rintro (digit | upper | lower | ⟨r, known, low, -⟩)
      · exact .inl digit
      · exact .inr (.inl upper)
      · exact .inr (.inr lower)
      · have above := Nat.le_of_ble_eq_true (wide r known)
        omega
  · next beyond =>
    rw [inRanges_iff (ascending_of_chain chain)]
    constructor
    · rintro ⟨r, known, within⟩
      exact .inr (.inr (.inr ⟨r, known, within⟩))
    · rintro (digit | upper | lower | found)
      · omega
      · omega
      · omega
      · exact found

/-! ### What is cased -/

/-- Whether each of `ranges` lies in one of `spans`. Both ascend, so those that lie in a span stand first when its
turn comes. -/
def covered (ranges spans : List (Nat × Nat)) : Bool :=
  (spans.foldl (fun left span => left.dropWhile fun r => Nat.ble span.1 r.1 && Nat.ble r.2 span.2) ranges).isEmpty

theorem exists_span {ranges spans : List (Nat × Nat)} (all : covered ranges spans = true) {r : Nat × Nat}
    (known : r ∈ ranges) : ∃ span ∈ spans, span.1 ≤ r.1 ∧ r.2 ≤ span.2 := by
  induction spans generalizing ranges with
  | nil =>
      rw [covered, List.foldl_nil, List.isEmpty_iff] at all
      rw [all] at known
      cases known
  | cons span spans ih =>
      rw [covered, List.foldl_cons] at all
      generalize inside : (fun r : Nat × Nat => Nat.ble span.1 r.1 && Nat.ble r.2 span.2) = p at all
      rw [← List.takeWhile_append_dropWhile (p := p) (l := ranges), List.mem_append] at known
      rcases known with here | later
      · have around := List.mem_takeWhile_imp here
        rw [← inside, Bool.and_eq_true, Nat.ble_eq, Nat.ble_eq] at around
        exact ⟨span, List.mem_cons_self, around⟩
      · rcases ih all later with ⟨other, member, around⟩
        exact ⟨other, List.mem_cons_of_mem _ member, around⟩

namespace CaseRun

/-- Whether all codes from `low` to `high` lie in one range of cased letters. -/
def cased (low high : Nat) : Bool := casedRanges.any fun r => Nat.ble r.1 low && Nat.ble high r.2

/-- Where a run takes every other code only, those between need not be letters. -/
def lettered (run : CaseRun) : Bool :=
  (cased run.first run.last || run.step == 2 && (List.range (run.last + 1 - run.first)).all fun k =>
    k % 2 == 1 || cased (run.first + k) (run.first + k)) &&
  cased (run.image run.first) (run.image run.last)

end CaseRun

theorem casedRanges_table :
    (casedRanges.IsChain fun r r' => Nat.ble r.1 r'.1 = true) ∧ covered casedRanges alphanumericSpans = true ∧
      ∀ run ∈ lowercaseRuns, run.lettered = true := by
  decide +kernel

theorem isCased_iff (c : Char) : isCased c = true ↔ ∃ r ∈ casedRanges, r.1 ≤ c.toNat ∧ c.toNat ≤ r.2 :=
  inRanges_iff (ascending_of_chain casedRanges_table.1) c.toNat

theorem isAlphanumeric_of_isCased {c : Char} (cased : isCased c = true) : isAlphanumeric c = true := by
  rcases (isCased_iff c).mp cased with ⟨r, known, low, high⟩
  rcases exists_span casedRanges_table.2.1 known with ⟨span, member, below, above⟩
  exact (isAlphanumeric_iff c).mpr ⟨span, member, below.trans low, high.trans above⟩

theorem isCased_of_cased {low high : Nat} (letters : CaseRun.cased low high = true) {c : Char}
    (above : low ≤ c.toNat) (below : c.toNat ≤ high) : isCased c = true := by
  rcases List.any_eq_true.mp letters with ⟨r, known, around⟩
  rw [Bool.and_eq_true, Nat.ble_eq, Nat.ble_eq] at around
  exact (isCased_iff c).mpr ⟨r, known, around.1.trans above, below.trans around.2⟩

theorem isCased_of_holds {run : CaseRun} (known : run ∈ lowercaseRuns) {c : Char}
    (held : run.holds c.toNat = true) :
    isCased c = true ∧ ∀ d : Char, d.toNat = run.image c.toNat → isCased d = true := by
  have letters := casedRanges_table.2.2 run known
  simp only [CaseRun.lettered, Bool.and_eq_true, Bool.or_eq_true, List.all_eq_true, List.mem_range,
    beq_iff_eq] at letters
  rcases letters with ⟨here, image⟩
  rcases (CaseRun.holds_iff run _).mp held with ⟨⟨low, high⟩, stride⟩
  constructor
  · rcases here with whole | ⟨two, each⟩
    · exact isCased_of_cased whole low high
    · rw [two] at stride
      rcases each (c.toNat - run.first) (by omega) with odd | single
      · omega
      · rw [show run.first + (c.toNat - run.first) = c.toNat by omega] at single
        exact isCased_of_cased single le_rfl le_rfl
  · intro d code
    have between := CaseRun.image_between held
    rw [← code] at between
    exact isCased_of_cased image between.1 between.2

end SpokenIntent.Text
