import SpokenIntent.Proofs.Recognition.Conversation
import SpokenIntent.Proofs.Recognition.Lessons
import SpokenIntent.Proofs.Text.Words

/-!
What an engine makes of an utterance, told by what has been registered. Of the pairs of a phrase and an intent each
counts where it was registered first; of the hints all count that have been given since they were last cleared.
Nothing else that an engine goes through leaves a trace: not its sessions, nor how they ended, nor a pair that was
registered again. And what comes later does not overtake what came before: an utterance that is matched already is
matched the same way, whatever else is registered.
-/

namespace SpokenIntent

namespace SimulatorCommand

variable {ρ : Type}

/-- The pair that a command registers. -/
def registration? : SimulatorCommand ρ → Option (String × String)
  | .addIntent phrase intentId => some (phrase, intentId)
  | _ => none

/-- The hints after a command, where `hints` were there before. -/
def hinting (hints : List String) : SimulatorCommand ρ → List String
  | .addPhrase phrase => hints ++ [phrase]
  | .clearPhrases => []
  | _ => hints

/-- Commands that teach an engine nothing. -/
def isIdle : SimulatorCommand ρ → Bool
  | .addIntent _ _ => false
  | .addPhrase _ => false
  | .clearPhrases => false
  | _ => true

end SimulatorCommand

namespace Vocabulary

/-- What is listed for a pair. -/
def entry (pair : String × String) : Pattern × String := (Pattern.parse pair.1, pair.2)

/-- The vocabulary of pairs and hints: each pair once, in the place where it came first. -/
def ofPairs (pairs : List (String × String)) (hints : List String) : Vocabulary :=
  ⟨pairs.eraseDups.map entry, hints⟩

theorem eraseDups_snoc {α : Type} [BEq α] [LawfulBEq α] (as : List α) (a : α) :
    (as ++ [a]).eraseDups = as.eraseDups ++ if a ∈ as then [] else [a] := by
  rw [List.eraseDups_append, List.removeAll, List.filter_singleton, List.elem_eq_mem]
  by_cases known : a ∈ as <;> simp [known, List.eraseDups_cons]

theorem ofPairs_again {pairs : List (String × String)} {pair : String × String} (known : pair ∈ pairs)
    (hints : List String) : ofPairs (pairs ++ [pair]) hints = ofPairs pairs hints := by
  rw [ofPairs, eraseDups_snoc, if_pos known, List.append_nil, ofPairs]

theorem addIntent_ofPairs (pairs : List (String × String)) (hints : List String) (phrase intentId : String) :
    (ofPairs pairs hints).addIntent phrase intentId = ofPairs (pairs ++ [(phrase, intentId)]) hints := by
  rw [addIntent]
  split
  · next again =>
    rcases List.any_eq_true.mp again with ⟨_, member, same⟩
    rcases List.mem_map.mp member with ⟨⟨first, second⟩, registered, rfl⟩
    simp only [entry, Pattern.parse, Bool.and_eq_true, beq_iff_eq] at same
    rw [← same.1, ← same.2, ofPairs_again (List.mem_eraseDups.mp registered)]
  · next fresh =>
    have unknown : (phrase, intentId) ∉ pairs := by
      intro registered
      have member := List.mem_map_of_mem (f := entry) (List.mem_eraseDups.mpr registered)
      exact fresh (List.any_eq_true.mpr ⟨_, member, by simp [entry, Pattern.parse]⟩)
    simp [ofPairs, eraseDups_snoc, unknown, entry]

/-- What comes of a text: it goes by the first intent that matches, if there is one. -/
inductive Judges (intents : List (Pattern × String)) (text : String) : Recognition → Prop where
  | matched {pattern : Pattern} {intentId : String} {captured : Dict String}
      (first : First text intents pattern intentId captured) : Judges intents text ⟨text, intentId, captured⟩
  | unmatched (none : ∀ entry ∈ intents, entry.1.matches? text = none) : Judges intents text (.textOnly text)

theorem recognize_judges (v : Vocabulary) (utterance : String) :
    Judges v.intents (bias v.phrases utterance) (v.recognize utterance) := by
  simp only [recognize]
  cases found : firstMatch (bias v.phrases utterance) v.intents with
  | none => exact .unmatched (firstMatch_none.mp found)
  | some match? =>
      rcases firstMatch_some found with ⟨pattern, first⟩
      exact .matched first

/-- An intent that matches is not overtaken by intents that come later. -/
theorem firstMatch_append {text : String} {intents : List (Pattern × String)} {entry : Pattern × String}
    (listed : entry ∈ intents) (fits : (entry.1.matches? text).isSome) (more : List (Pattern × String)) :
    firstMatch text (intents ++ more) = firstMatch text intents := by
  rw [firstMatch_eq, List.findSome?_append, ← firstMatch_eq]
  cases found : firstMatch text intents with
  | some first => rfl
  | none =>
      rw [firstMatch_none.mp found entry listed] at fits
      cases fits

theorem recognize_ofPairs {pairs : List (String × String)} {hints : List String} {utterance : String}
    {pair : String × String} (listed : pair ∈ pairs)
    (fits : ((Pattern.parse pair.1).matches? (bias hints utterance)).isSome) (more : List (String × String)) :
    (ofPairs (pairs ++ more) hints).recognize utterance = (ofPairs pairs hints).recognize utterance := by
  have here : entry pair ∈ pairs.eraseDups.map entry := List.mem_map_of_mem (List.mem_eraseDups.mpr listed)
  simp only [recognize, ofPairs, List.eraseDups_append, List.map_append, firstMatch_append here fits]

end Vocabulary

namespace Simulator

variable {ρ : Type}

def registrations (cs : List (SimulatorCommand ρ)) : List (String × String) :=
  cs.filterMap SimulatorCommand.registration?

/-- The hints that have been given since they were last cleared. -/
def hinted (cs : List (SimulatorCommand ρ)) : List String := cs.foldl SimulatorCommand.hinting []

/-- What an engine makes of an utterance. -/
def answer (e : Simulator ρ) (utterance : String) : Recognition := e.vocabulary.recognize (Text.spaced utterance)

theorem teaches_ofPairs (pairs : List (String × String)) (hints : List String) (c : SimulatorCommand ρ) :
    c.teaches (.ofPairs pairs hints) = .ofPairs (pairs ++ c.registration?.toList) (c.hinting hints) := by
  cases c with
  | addIntent phrase intentId => exact Vocabulary.addIntent_ofPairs pairs hints phrase intentId
  | _ => simp [SimulatorCommand.teaches, SimulatorCommand.registration?, SimulatorCommand.hinting, Vocabulary.ofPairs,
      Vocabulary.addPhrase, Vocabulary.clearPhrases]

theorem run_vocabulary {e : Simulator ρ} {pairs : List (String × String)} {hints : List String}
    (knows : e.vocabulary = .ofPairs pairs hints) (cs : List (SimulatorCommand ρ)) :
    (e.run cs).1.vocabulary = .ofPairs (pairs ++ registrations cs) (cs.foldl SimulatorCommand.hinting hints) := by
  induction cs generalizing e pairs hints with
  | nil => rw [run, registrations, List.filterMap_nil, List.append_nil, List.foldl_nil, knows]
  | cons c rest ih =>
      have after : (e.handle c).1.vocabulary = .ofPairs (pairs ++ c.registration?.toList) (c.hinting hints) := by
        rw [handle_eq, react_vocabulary, knows, teaches_ofPairs]
      have tail := ih after
      rw [List.append_assoc] at tail
      have split : registrations (c :: rest) = c.registration?.toList ++ registrations rest := by
        rw [registrations, List.filterMap_cons]
        cases c.registration? <;> rfl
      rw [split]
      exact tail

theorem registrations_append (cs more : List (SimulatorCommand ρ)) :
    registrations (cs ++ more) = registrations cs ++ registrations more := List.filterMap_append

/-- Commands that teach nothing neither register a pair nor change the hints. -/
theorem idle_unheeded {idle : List (SimulatorCommand ρ)} (teachNothing : ∀ c ∈ idle, c.isIdle = true)
    (hints : List String) : registrations idle = [] ∧ idle.foldl SimulatorCommand.hinting hints = hints := by
  induction idle with
  | nil => exact ⟨rfl, rfl⟩
  | cons c rest ih =>
      have tail := ih fun later member => teachNothing later (List.mem_cons_of_mem c member)
      have here := teachNothing c List.mem_cons_self
      cases c with
      | addIntent _ _ | addPhrase _ | clearPhrases => cases here
      | _ => exact tail

theorem create_vocabulary (accepts : Bool) (ids : Nat → String) (cs : List (SimulatorCommand ρ)) :
    ((create accepts ids).run cs).1.vocabulary = .ofPairs (registrations cs) (hinted cs) := by
  have knows : (create accepts ids : Simulator ρ).vocabulary = .ofPairs [] [] := rfl
  rw [run_vocabulary knows, List.nil_append, hinted]

/-! ### Engines that differ in what was asked of them -/

/-- An engine without the requests that it has kept. -/
def unasked (e : Simulator ρ) : Simulator ρ := { e with requests := [] }

theorem react_unasked {e f : Simulator ρ} (same : e.unasked = f.unasked) (c : SimulatorCommand ρ) :
    (e.react c).2 = (f.react c).2 ∧ (e.react c).1.unasked = (f.react c).1.unasked := by
  obtain ⟨accepts, ids, issued, session, receiver, vocabulary, requests⟩ := e
  obtain ⟨accepts', ids', issued', session', receiver', vocabulary', requests'⟩ := f
  simp only [unasked, mk.injEq, and_true] at same
  obtain ⟨rfl, rfl, rfl, rfl, rfl, rfl⟩ := same
  -- only a start and an end look at the session, and only a start at the credentials
  cases c <;> cases session <;> cases accepts <;> exact ⟨rfl, rfl⟩

theorem run_unasked {e f : Simulator ρ} (same : e.unasked = f.unasked) (cs : List (SimulatorCommand ρ)) :
    (e.run cs).2 = (f.run cs).2 ∧ (e.run cs).1.vocabulary = (f.run cs).1.vocabulary := by
  induction cs generalizing e f with
  | nil =>
      have knows : e.unasked.vocabulary = f.unasked.vocabulary := by rw [same]
      exact ⟨rfl, knows⟩
  | cons c rest ih =>
      have receiver : e.unasked.receiver = f.unasked.receiver := by rw [same]
      have heard : e.receiver = f.receiver := receiver
      rcases react_unasked same c with ⟨fired, after⟩
      rcases ih after with ⟨told, knows⟩
      simp only [run, handle_eq, heard, fired, told, knows, and_self]

theorem handle_known {e : Simulator ρ} {phrase intentId : String}
    (known : e.vocabulary.addIntent phrase intentId = e.vocabulary) :
    (e.handle (.addIntent phrase intentId)).1.unasked = e.unasked := by
  simp only [handle_eq, react, note, unasked, known]

/-! ### What an utterance comes to -/

/-- In a session an utterance is told as its hypotheses, the last of which is the answer. -/
theorem speak_told {e : Simulator ρ} (active : e.session.isSome = true) {receiver : ρ}
    (connected : e.receiver = some receiver) (utterance : String) :
    (e.handle (.speak utterance)).2 =
      (hypotheses (Text.words utterance) (e.answer utterance)).map fun event => (receiver, event) := by
  obtain ⟨id, session⟩ := Option.isSome_iff_exists.mp active
  simp only [handle_eq, react, session, connected, address, utteranceEvents_eq, Option.toList_some,
    List.flatMap_singleton]
  rfl

/-- Whatever an engine has gone through:
in a session an utterance is told as its hypotheses, and the last of them is what the first intent that matches makes
of the utterance with the hints put in, each pair being listed once, where it was registered first;
engines of which the pairs that were first and the hints are the same give the same answers;
sessions that begin, end or fail change no answer;
a pair that is registered again changes nothing that is told from then on, nor how many intents there are;
and whatever is registered later, an utterance that some pair matches is answered the same way, as long as the hints
are the same. -/
theorem recognition_determined (accepts : Bool) (ids : Nat → String) (cs : List (SimulatorCommand ρ)) :
    let after := fun cs : List (SimulatorCommand ρ) => ((create accepts ids).run cs).1
    let e := after cs
    let listed := (registrations cs).eraseDups.map Vocabulary.entry
    let text := fun utterance => Vocabulary.bias (hinted cs) (Text.spaced utterance)
    (∀ utterance, Vocabulary.Judges listed (text utterance) (e.answer utterance) ∧
      (e.session.isSome = true → ∀ receiver, e.receiver = some receiver →
        (e.handle (.speak utterance)).2 =
          (hypotheses (Text.words utterance) (e.answer utterance)).map fun event => (receiver, event))) ∧
    (∀ (accepts' : Bool) (ids' : Nat → String) (cs' : List (SimulatorCommand ρ)),
      (registrations cs').eraseDups = (registrations cs).eraseDups → hinted cs' = hinted cs →
        ∀ utterance, ((create accepts' ids').run cs').1.answer utterance = e.answer utterance) ∧
    (∀ idle : List (SimulatorCommand ρ), (∀ c ∈ idle, c.isIdle = true) →
      ∀ utterance, (after (cs ++ idle)).answer utterance = e.answer utterance) ∧
    (e.vocabulary.intents.length = (registrations cs).eraseDups.length ∧
      ∀ phrase intentId, (phrase, intentId) ∈ registrations cs →
        ∀ more, ((e.handle (.addIntent phrase intentId)).1.run more).2 = (e.run more).2 ∧
          ((e.handle (.addIntent phrase intentId)).1.run more).1.vocabulary = (e.run more).1.vocabulary) ∧
    ∀ more utterance, hinted (cs ++ more) = hinted cs →
      (∃ pair ∈ registrations cs, ((Pattern.parse pair.1).matches? (text utterance)).isSome) →
        (after (cs ++ more)).answer utterance = e.answer utterance := by
  intro after e listed text
  have knows (cs : List (SimulatorCommand ρ)) : (after cs).vocabulary = .ofPairs (registrations cs) (hinted cs) :=
    create_vocabulary accepts ids cs
  refine ⟨?_, ?_, ?_, ⟨?_, ?_⟩, ?_⟩
  · intro utterance
    have judged := Vocabulary.recognize_judges e.vocabulary (Text.spaced utterance)
    rw [knows cs] at judged
    refine ⟨?_, fun active receiver connected => speak_told active connected utterance⟩
    rw [answer, knows cs]
    exact judged
  · intro accepts' ids' cs' pairs hints utterance
    simp only [answer, knows cs, create_vocabulary, Vocabulary.ofPairs, pairs, hints, e]
  · intro idle teachNothing utterance
    rcases idle_unheeded teachNothing (hinted cs) with ⟨none, same⟩
    have hints : hinted (cs ++ idle) = hinted cs := by rw [hinted, List.foldl_append, ← hinted, same]
    rw [answer, answer, knows, knows cs, registrations_append, none, List.append_nil, hints]
  · rw [knows cs, Vocabulary.ofPairs, List.length_map]
  · intro phrase intentId registered more
    apply run_unasked
    apply handle_known
    rw [knows cs, Vocabulary.addIntent_ofPairs, Vocabulary.ofPairs_again registered]
  · rintro more utterance hints ⟨pair, registered, fits⟩
    rw [answer, answer, knows, knows cs, registrations_append, hints]
    exact Vocabulary.recognize_ofPairs registered fits _

/-- A session that fails and one after it, between which a pair is registered again; and later on an intent that would
match too. -/
theorem restarted_recognition_determined :
    let cs : List (SimulatorCommand Nat) := [.connect 7, .addIntent "go up" "A", .addPhrase "go up", .start,
      .fail "1006" "lost", .addIntent "go up" "A", .start]
    let more : List (SimulatorCommand Nat) := [.addIntent "{where} up" "B", .stop, .addIntent "go up" "A"]
    let e := ((create true fun _ => "a").run cs).1
    (registrations cs).eraseDups = [("go up", "A")] ∧ e.vocabulary.intents.length = 1 ∧
    (e.handle (.speak "GoUp.")).2 =
      [(7, .recognizing (.textOnly "GoUp.")), (7, .recognized ⟨"go up", "A", []⟩)] ∧
    ((create true fun _ => "a").run (cs ++ more)).1.answer "GoUp." = ⟨"go up", "A", []⟩ := by
  intro cs more e
  rcases recognition_determined true (fun _ => "a") cs with ⟨spoken, -, -, ⟨counted, -⟩, further⟩
  have answered : e.answer "GoUp." = ⟨"go up", "A", []⟩ := by decide +kernel
  have told := (spoken "GoUp.").2 rfl 7 rfl
  have later := further more "GoUp." rfl ⟨("go up", "A"), by decide, by decide +kernel⟩
  rw [answered] at told later
  exact ⟨by decide, counted.trans (by decide), told.trans (by decide +kernel), later⟩

end Simulator

end SpokenIntent
