import SpokenIntent.Proofs.Console.Opening
import SpokenIntent.Proofs.Recognition.Registrations
import SpokenIntent.Proofs.Settings.Reload

/-!
The intents and phrase hints of settings, from the file to the engine. Normal settings have as many of those that are
written as there is room for: the first of each kind, in order. Since none of them comes twice, the engine takes every
one of them.
-/

namespace SpokenIntent

namespace Settings

open Text

/-! ### Entries that are new -/

section Novel
variable {α : Type}

/-- The entries that are like none before them, where `before` came first. -/
def novel (like : α → α → Bool) (before : List α) : List α → List α
  | [] => []
  | a :: rest =>
    if before.any (like · a) then novel like (before ++ [a]) rest
    else a :: novel like (before ++ [a]) rest

/-- To be told apart from all that came before it is enough to be told apart from what was kept of it: what is like
an entry that was passed over is like the one for which that was passed over. -/
theorem keep_novel {tidy : α → α} {fits : α → Bool} {like : α → α → Bool} {room : Nat}
    (transitive : ∀ a b c, like a b = true → like b c = true → like a c = true) (as : List α) {kept before : List α}
    (some : kept.length < room) (same : ∀ a, kept.any (like · a) = before.any (like · a)) :
    keep tidy (fun kept a => fits a && !kept.any (like · a)) room kept as =
      (kept ++ novel like before ((as.map tidy).filter fits)).take room := by
  induction as generalizing kept before with
  | nil => simp [keep, novel, List.take_of_length_le some.le]
  | cons a rest ih =>
      rw [keep, List.map_cons, List.filter_cons]
      by_cases fitting : fits (tidy a) = true
      · simp only [fitting, Bool.true_and, ↓reduceIte, novel, same]
        by_cases known : before.any (like · (tidy a)) = true
        -- Nothing is kept, but `before` grows: no entry is like the new one that was not like one before.
        · have passed : ∀ b, kept.any (like · b) = (before ++ [tidy a]).any (like · b) := by
            intro b
            rw [List.any_append, same, List.any_cons, List.any_nil, Bool.or_false, eq_comm, Bool.or_eq_left_iff_imp]
            intro alike
            rcases List.any_eq_true.mp known with ⟨first, member, likened⟩
            exact List.any_eq_true.mpr ⟨first, member, transitive _ _ _ likened alike⟩
          simp only [known, Bool.not_true, Bool.false_eq_true, ↓reduceIte]
          exact ih some passed
        · have grown : ∀ b, (kept ++ [tidy a]).any (like · b) = (before ++ [tidy a]).any (like · b) := by
            intro b
            rw [List.any_append, same, ← List.any_append]
          simp only [known, Bool.not_false, Bool.false_eq_true, ↓reduceIte]
          rw [List.append_cons kept (tidy a) (novel _ _ _)]
          -- The last place is taken, so that the rest is not looked at; or there is room for more.
          split
          · next full =>
            have exact : (kept ++ [tidy a]).length = room := by
              rw [List.length_append, List.length_singleton] at full ⊢
              omega
            rw [← exact, List.take_left]
          · next more => exact ih (Nat.not_le.mp more) grown
      · simp only [fitting, Bool.false_and, Bool.false_eq_true, ↓reduceIte]
        exact ih some same

/-- Entries that are equal to none before them: those of a list without its repetitions. -/
theorem novel_eq [BEq α] [LawfulBEq α] (as before : List α) :
    novel (· == ·) before as = (as.removeAll before).eraseDups := by
  induction as generalizing before with
  | nil => rfl
  | cons a rest ih =>
      rw [novel, List.any_beq', List.cons_removeAll, ih]
      have seen (b : α) : (before ++ [a]).contains b = (before.contains b || b == a) := by
        rw [List.contains_append, List.contains_cons, List.contains_nil, Bool.or_false]
      by_cases known : before.contains a = true
      · have same : rest.removeAll (before ++ [a]) = rest.removeAll before := by
          apply List.filter_congr
          intro b _
          rw [List.elem_eq_contains, List.elem_eq_contains, seen, Bool.not_inj_iff, Bool.or_eq_left_iff_imp, beq_iff_eq]
          rintro rfl
          exact known
        simp only [known, Bool.true_eq_false, ↓reduceIte, same]
      · have later : rest.removeAll (before ++ [a]) = (rest.removeAll before).filter fun b => !b == a := by
          rw [List.removeAll, List.removeAll, List.filter_filter]
          apply List.filter_congr
          intro b _
          rw [List.elem_eq_contains, List.elem_eq_contains, seen, Bool.not_or, Bool.and_comm]
        simp only [known, Bool.false_eq_true, ↓reduceIte, later, List.eraseDups_cons]

theorem eraseDups_nodup [BEq α] [LawfulBEq α] (as : List α) : as.eraseDups.Nodup := by
  induction as using List.reverseRecOn with
  | nil => exact .nil
  | append_singleton as a ih =>
      rw [Vocabulary.eraseDups_snoc]
      by_cases known : a ∈ as
      · simpa [known] using ih
      · rw [if_neg known]
        refine ih.append (List.nodup_singleton a) ?_
        rw [List.disjoint_singleton, List.mem_eraseDups]
        exact known

theorem eraseDups_of_nodup [BEq α] [LawfulBEq α] {as : List α} (distinct : as.Nodup) : as.eraseDups = as := by
  induction distinct with
  | nil => rfl
  | @cons a as others _ ih =>
      have kept : (as.filter fun b => !b == a) = as := by
        apply List.filter_eq_self.mpr
        intro b member
        simpa using (others b member).symm
      rw [List.eraseDups_cons, kept, ih]

end Novel

/-! ### The lists of the settings -/

/-- An intent of which both parts say something. -/
def isFilled (i : IntentSetting) : Bool := !i.phrase.isEmpty && !i.intentId.isEmpty

theorem normalizeIntents_eq (intents : List IntentSetting) :
    normalizeIntents intents = ((intents.map tidyIntent).filter isFilled).eraseDups.take maxIntents := by
  have admits : admitsIntent = fun kept i => isFilled i && !kept.any (· == i) := by
    funext kept i
    rw [admitsIntent, isFilled, List.any_beq', Bool.not_or, Bool.not_or]
  have alike : ∀ i j k : IntentSetting, (i == j) = true → (j == k) = true → (i == k) = true := by
    intro i j k
    rw [beq_iff_eq, beq_iff_eq, beq_iff_eq]
    exact Eq.trans
  rw [normalizeIntents, keepIntents_eq, admits, keep_novel alike intents (by decide) fun _ => rfl, List.nil_append,
    novel_eq, List.removeAll_nil]

theorem normalizePhrases_eq (phrases : List String) :
    normalizePhrases phrases =
      (novel samePhrase [] ((phrases.map trim).filter fun phrase => !phrase.isEmpty)).take maxPhrases := by
  have admits : admitsPhrase = fun kept phrase => !phrase.isEmpty && !kept.any (samePhrase · phrase) := by
    funext kept phrase
    rw [admitsPhrase, Bool.not_or]
  have alike : ∀ a b c, samePhrase a b = true → samePhrase b c = true → samePhrase a c = true := by
    intro a b c
    rw [samePhrase, samePhrase, samePhrase, beq_iff_eq, beq_iff_eq, beq_iff_eq]
    exact Eq.trans
  rw [normalizePhrases, keepPhrases_eq, admits, keep_novel alike phrases (by decide) fun _ => rfl, List.nil_append]

example : novel samePhrase [] ["On line", "stop", "ON LINE", "Stop now"] = ["On line", "stop", "Stop now"] := by
  decide +kernel

theorem normalizeIntents_nodup (intents : List IntentSetting) : (normalizeIntents intents).Nodup := by
  rw [normalizeIntents_eq]
  exact (eraseDups_nodup _).sublist (List.take_sublist _ _)

end Settings

/-! ### An engine that is told of them -/

def Lesson.request : Lesson → Request
  | .intent phrase intentId => .addIntent phrase intentId
  | .hint phrase => .addPhrase phrase

theorem Simulator.study_requests (lessons : List Lesson) (e : Simulator Unit) :
    (lessons.foldl study e).requests = e.requests ++ lessons.map Lesson.request := by
  induction lessons generalizing e with
  | nil => simp
  | cons lesson rest ih =>
      have first : (e.study lesson).requests = e.requests ++ [lesson.request] := by cases lesson <;> rfl
      rw [List.foldl_cons, ih, first, List.map_cons, List.append_assoc, List.singleton_append]

namespace Settings

open Vocabulary

theorem learn_intents (intents : List IntentSetting) (pairs : List (String × String)) (hints : List String) :
    (intents.map fun i => Lesson.intent i.phrase i.intentId).foldl learn (ofPairs pairs hints) =
      ofPairs (pairs ++ intents.map fun i => (i.phrase, i.intentId)) hints := by
  induction intents generalizing pairs with
  | nil => rw [List.map_nil, List.map_nil, List.append_nil, List.foldl_nil]
  | cons i rest ih =>
      rw [List.map_cons, List.foldl_cons, learn, addIntent_ofPairs, ih, List.map_cons, List.append_assoc,
        List.singleton_append]

theorem learn_hints (phrases : List String) (v : Vocabulary) :
    (phrases.map Lesson.hint).foldl learn v = ⟨v.intents, v.phrases ++ phrases⟩ := by
  induction phrases generalizing v with
  | nil => simp
  | cons phrase rest ih => simp [learn, addPhrase, ih]

/-- Where no intent comes twice, all of them are learnt. -/
theorem learn_lessons {s : Settings} (distinct : s.intents.Nodup) :
    s.lessons.foldl learn Vocabulary.empty =
      ⟨s.intents.map fun i => (Pattern.parse i.phrase, i.intentId), s.phrases⟩ := by
  have pairs : (s.intents.map fun i => (i.phrase, i.intentId)).Nodup := by
    refine distinct.map ?_
    rintro ⟨phrase, intentId⟩ ⟨phrase', intentId'⟩ same
    cases same
    rfl
  have none : Vocabulary.empty = ofPairs [] [] := rfl
  rw [lessons, List.foldl_append, none, learn_intents, List.nil_append, learn_hints, ofPairs, eraseDups_of_nodup pairs,
    List.map_map, List.nil_append]
  rfl

/-- What becomes of the intents and the phrase hints of settings:
of the intents that are written, the first 256 that differ when they are trimmed and are not blank in either part;
of the hints, the first 64 that are not blank when they are trimmed, each but for the case of ASCII letters unlike all
before it;
and whatever a file holds, a fresh bridge that is set up by it leaves an engine of the simulated kind with exactly the
intents and the hints that were loaded, in order, each of them asked for once; nothing else is asked for, and nothing is
posted. -/
theorem vocabulary_arrives :
    (∀ intents, normalizeIntents intents = ((intents.map tidyIntent).filter isFilled).eraseDups.take 256) ∧
    (∀ phrases, normalizePhrases phrases =
      (novel samePhrase [] ((phrases.map Text.trim).filter fun phrase => !phrase.isEmpty)).take 64) ∧
    (∀ (content : Option (List UInt8)) (accepts : Bool) (ids : Nat → String) (credentials : Credentials),
      let s := ofBytes content
      ∃ (fresh : Session (Simulator Unit) Channel) (taught : Simulator Unit),
        (∀ {σ : Type}, (Session.establish (Simulator.factory accepts ids) credentials :
          Work σ (BridgeTask Channel) (Except EngineError (Session (Simulator Unit) Channel))) = pure (.ok fresh)) ∧
        fresh.engine.vocabulary = Vocabulary.empty ∧
        Desk.setUp s ⟨fresh, [], []⟩ = .ok () ⟨⟨taught, Console.listeningBridge⟩, [], []⟩ ∧
        taught.vocabulary.intents = s.intents.map (fun i => (Pattern.parse i.phrase, i.intentId)) ∧
        taught.vocabulary.phrases = s.phrases ∧
        taught.requests = fresh.engine.requests ++ s.intents.map (fun i => .addIntent i.phrase i.intentId) ++
          s.phrases.map .addPhrase) := by
  refine ⟨normalizeIntents_eq, normalizePhrases_eq, ?_⟩
  intro content accepts ids credentials s
  obtain ⟨written, loaded⟩ : ∃ written : Settings, s = written.normalize := ofBytes_normal content
  have distinct : s.intents.Nodup := by
    rw [loaded]
    exact normalizeIntents_nodup written.intents
  let fresh : Session (Simulator Unit) Channel :=
    ⟨(Simulator.obey (.connect ()) (Simulator.create accepts ids)).engine, Bridge.create⟩
  let taught : Simulator Unit := s.lessons.foldl Simulator.study fresh.engine
  have vocabulary : taught.vocabulary = _ :=
    (Simulator.study_all fresh.engine s.lessons).2.trans (learn_lessons distinct)
  refine ⟨fresh, taught, rfl, rfl, ?_, ?_, ?_, ?_⟩
  · have registered := s.register_run ⟨fresh, [], []⟩ rfl
    simp only [Desk.setUp, Work.bind_apply, registered, fresh, Console.listen_run, taught]
  · rw [vocabulary]
  · rw [vocabulary]
  · rw [Simulator.study_requests, lessons, List.map_append, List.map_map, List.map_map, ← List.append_assoc]
    rfl

end Settings

end SpokenIntent
