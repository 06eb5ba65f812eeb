import SpokenIntent.Proofs.Console.Dispatch
import SpokenIntent.Proofs.Settings.Reload

/-!
Commands that can be spoken. The utterance of a command is normalized when settings are loaded, and an
utterance that is heard is normalized too; but what is heard has single spaces between its words, while the
utterance of a command keeps the blanks that were written. So the commands that can be spoken are those with
single spaces: any other is loaded and never heard.
-/

namespace SpokenIntent

/-- Where no intent is registered all is up to the table. -/
theorem CommandTable.Answers.untaught {table : CommandTable} {text : String} {dispatch : Dispatch}
    (answers : Answers [] table text dispatch) : dispatch = table.lookup (normalizeUtterance text) := by
  cases answers with
  | unheard => rfl
  | intent first | plain first =>
      rcases first.listed with ⟨before, after, listed, -⟩
      simp at listed

namespace Console

theorem after_turns (c : Console) (turns : List Turn) : c.after (turns.map .turn) = c.play turns := by
  simp [after, play, List.foldl_map, undergo]

theorem play_serves {c : Console} {lessons : List Lesson} {commands : Dict String}
    (serves : Serves lessons commands c) (turns : List Turn) : Serves lessons commands (c.play turns) := by
  have none : (turns.map Deed.turn).filterMap Deed.lesson? = [] := by simp [Deed.lesson?]
  have after := after_serves serves (turns.map .turn)
  rwa [none, List.append_nil, after_turns] at after

/-- Without a vocabulary an utterance is resolved by the entry of its normal form with single spaces. -/
theorem plain_resolves {c : Console} {commands : Dict String} (serves : Serves [] commands c)
    (active : c.world.session.engine.session.isSome = true) (utterance : String) :
    Resolves c utterance (CommandTable.lookup ⟨commands⟩ (Text.spaced (normalizeUtterance utterance))) := by
  rcases speak_resolves serves active utterance with ⟨dispatch, answers, resolves⟩
  have plain : dispatch = CommandTable.lookup ⟨commands⟩ (normalizeUtterance (Text.spaced utterance)) :=
    answers.untaught
  rw [normalizeUtterance_spaced] at plain
  rwa [← plain]

/-- It is a command exactly if some entry is kept under that form. -/
theorem spoken_resolves {c : Console} {entries : Dict String}
    (serves : Serves [] (Settings.normalizeCommands entries) c)
    (active : c.world.session.engine.session.isSome = true) (utterance : String) :
    let heard := Text.spaced (normalizeUtterance utterance)
    (Settings.Written entries heard ∧ ∃ command, Resolves c utterance (.command heard command)) ∨
    (¬ Settings.Written entries heard ∧ Resolves c utterance (.unmatched heard)) := by
  intro heard
  have resolves : Resolves c utterance (CommandTable.lookup ⟨Settings.normalizeCommands entries⟩ heard) :=
    plain_resolves serves active utterance
  rw [← Settings.isSome_normalizeCommands]
  cases found : Dict.get? heard (Settings.normalizeCommands entries) with
  | some command =>
      left
      rw [CommandTable.lookup_known found] at resolves
      exact ⟨rfl, command, resolves⟩
  | none =>
      right
      rw [CommandTable.lookup_unknown found] at resolves
      exact ⟨nofun, resolves⟩

/-- A settings file without a vocabulary, and a console in a session. An utterance is resolved as a command
exactly if some entry of the file is kept under its normal form with single spaces. So an entry can be spoken if
its own normal form has single spaces. If it has not, the table holds it, but nothing that is spoken is resolved
by it. -/
theorem commands_heard {bytes : List UInt8} {text : String} {s : Settings}
    (readable : Text.readUtf8 bytes = .ok text) (parsed : Settings.parse text = .ok s)
    (noIntents : s.intents = []) (noPhrases : s.phrases = []) {credentials : Credentials} {ids : Nat → String}
    {c₀ : Console} (opened : open? (Settings.ofBytes (some bytes)) credentials ids = .ok c₀) (turns : List Turn)
    (active : (c₀.play turns).world.session.engine.session.isSome = true) :
    let c := c₀.play turns
    (∀ utterance, let heard := Text.spaced (normalizeUtterance utterance)
      (Settings.Written s.commands heard ∧ ∃ command, Resolves c utterance (.command heard command)) ∨
      (¬ Settings.Written s.commands heard ∧ Resolves c utterance (.unmatched heard))) ∧
    ∀ entry ∈ s.commands, Settings.Usable entry →
      let key := normalizeUtterance entry.1
      (Dict.get? key c.world.table.commands).isSome = true ∧
      (Text.spaced key = key → ∃ command, Resolves c entry.1 (.command key command)) ∧
      (Text.spaced key ≠ key → ∀ utterance command, ¬ Resolves c utterance (.command key command)) := by
  intro c
  rw [Settings.ofBytes_read readable parsed] at opened
  have untaught : s.normalize.lessons = [] := by
    simp [Settings.lessons, Settings.normalize, noIntents, noPhrases, Settings.normalizeIntents,
      Settings.normalizePhrases, Settings.keepIntents, Settings.keepPhrases]
  have serves : Serves [] (Settings.normalizeCommands s.commands) c := by
    have here := play_serves (open_serves opened) turns
    rwa [untaught] at here
  have table : c.world.table = ⟨Settings.normalizeCommands s.commands⟩ := serves.table
  refine ⟨spoken_resolves serves active, ?_⟩
  intro entry member usable key
  have written : Settings.Written s.commands key := ⟨entry, member, usable, rfl⟩
  refine ⟨?_, ?_, ?_⟩
  · rw [table]
    exact Settings.isSome_normalizeCommands.mpr written
  · intro spaced
    rcases spoken_resolves serves active entry.1 with ⟨-, spoken⟩ | ⟨unwritten, -⟩
    · rwa [spaced] at spoken
    · rw [spaced] at unwritten
      exact absurd written unwritten
  · intro unspaced utterance command resolved
    have same := CommandTable.lookup_utterance ((plain_resolves serves active utterance).unique resolved)
    rw [← same, Text.spaced_spaced] at unspaced
    exact unspaced rfl

/-- The first command is written with two spaces, and so cannot be spoken; the second can. -/
theorem single_space_heard :
    let text := "\x7b\"intents\":[],\"phrases\":[],\"commands\":\x7b\"go  up\":\"x\",\"go down\":\"y\"\x7d\x7d"
    let c := (opening (Settings.ofBytes (some text.toUTF8.toList)) fun _ => "a").play [.input .start]
    (∃ command, Resolves c "go down" (.command "go down" command)) ∧
    ∀ utterance command, ¬ Resolves c utterance (.command "go  up" command) := by
  intro text c
  let s : Settings := ⟨none, none, [], [], [("go  up", "x"), ("go down", "y")], Settings.default.logFilter⟩
  have readable : Text.readUtf8 text.toUTF8.toList = .ok text := Text.readUtf8_toUTF8 text
  have parsed : Settings.parse text = .ok s := by decide +kernel
  have active : c.world.session.engine.session.isSome = true := by
    simp only [c, Settings.ofBytes_read readable parsed]
    decide +kernel
  have opened := open_eq (Settings.ofBytes (some text.toUTF8.toList)) ⟨"k", "r", by decide, by decide⟩ fun _ => "a"
  rcases commands_heard readable parsed rfl rfl opened [.input .start] active with ⟨-, entries⟩
  rcases entries ("go  up", "x") (by decide) ⟨by decide +kernel, by decide +kernel⟩ with ⟨-, -, unheard⟩
  rcases entries ("go down", "y") (by decide) ⟨by decide +kernel, by decide +kernel⟩ with ⟨-, heard, -⟩
  have up : normalizeUtterance "go  up" = "go  up" := by decide +kernel
  have down : normalizeUtterance "go down" = "go down" := by decide +kernel
  rw [up] at unheard
  rw [down] at heard
  exact ⟨heard (by decide +kernel), unheard (by decide +kernel)⟩

/-- A command that is spoken as it is written, and not found. -/
theorem doubled_space_unmatched :
    let text := "\x7b\"intents\":[],\"phrases\":[],\"commands\":\x7b\"go  up\":\"x\"\x7d\x7d"
    let s : Settings := ⟨none, none, [], [], [("go  up", "x")], Settings.default.logFilter⟩
    let c := (opening (Settings.ofBytes (some text.toUTF8.toList)) fun _ => "a").play [.input .start]
    Settings.parse text = .ok s ∧ Settings.Usable ("go  up", "x") ∧
    c.world.session.engine.session = some "a" ∧ c.world.table.commands = [("go  up", "x")] ∧
    ((c.handle (.speak "go  up")).runPending Desk.runTask 9).2.world.notices =
      [.started "a", .recognizing "go", .recognizing "go up", .resolved (.unmatched "go up")] := by
  intro text s c
  have readable : Text.readUtf8 text.toUTF8.toList = .ok text := Text.readUtf8_toUTF8 text
  have parsed : Settings.parse text = .ok s := by decide +kernel
  refine ⟨parsed, ⟨by decide +kernel, by decide +kernel⟩, ?_⟩
  simp only [c, Settings.ofBytes_read readable parsed]
  decide +kernel

end Console

end SpokenIntent
