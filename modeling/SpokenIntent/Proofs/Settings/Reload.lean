import SpokenIntent.Proofs.Files
import SpokenIntent.Proofs.Json.LaidOut
import SpokenIntent.Proofs.Settings.Normal
import SpokenIntent.Proofs.Text.Utf8
import SpokenIntent.Settings.File
import SpokenIntent.Vocabulary.Commands

/-!
Settings that are saved and loaded again. What is written is read back as it was, so a second load does
nothing but normalize what the first has normalized already.
-/

namespace SpokenIntent

open Json

/-! ### Reading settings that were written -/

theorem IntentSetting.reads (i : IntentSetting) (level : Nat) :
    Reads IntentSetting.read (writeLaidOut level i.toJson) i := by
  have takes : Takes shape.member (laidOut level) ⟨none, none⟩
      [("phrase", .string i.phrase), ("intentId", .string i.intentId)] ⟨some i.phrase, some i.intentId⟩ :=
    .cons rfl ((reads_string i.phrase).map fun phrase => (⟨some phrase, none⟩ : Draft)) <|
    .cons rfl ((reads_string i.intentId).map fun intentId => (⟨some i.phrase, some intentId⟩ : Draft)) (.nil _)
  obtain ⟨opens, reads⟩ := Shape.reads_object takes
  exact ⟨opens, fun before rest blanks => by rw [IntentSetting.read, toJson, reads before rest blanks]⟩

namespace Settings

theorem reads_optionalJson (s : Option String) (level : Nat) :
    Reads (readOptional readString) (writeLaidOut level (optionalJson s)) s := by
  cases s with
  | none => exact reads_none readString
  | some s => exact reads_some (reads_string s) fun more same => by cases same

/-- What a text that says everything says. -/
def fullDraft (s : Settings) : Draft :=
  ⟨some s.key, some s.region, some s.intents, some s.phrases, some s.commands, some s.logFilter⟩

theorem draft_takes (s : Settings) (sorted : Dict.Sorted s.commands) :
    Takes shape.member (laidOut 0) Draft.empty [
      ("key", optionalJson s.key),
      ("region", optionalJson s.region),
      ("intents", .array (s.intents.map IntentSetting.toJson)),
      ("phrases", .array (s.phrases.map .string)),
      ("commands", .object (s.commands.map fun (utterance, command) => (utterance, .string command))),
      ("logFilter", .string s.logFilter)] s.fullDraft := by
  have intents := reads_list IntentSetting.toJson 1 s.intents fun i _ => i.reads 2
  have phrases := reads_list .string 1 s.phrases fun phrase _ => reads_string phrase
  have commands := reads_dict .string 1 sorted fun e _ => reads_string e.2
  let d := s.fullDraft
  exact
    .cons rfl ((reads_optionalJson s.key 1).map fun v => { Draft.empty with key := some v }) <|
    .cons rfl ((reads_optionalJson s.region 1).map fun v => { Draft.empty with key := d.key, region := some v }) <|
    .cons rfl (intents.map fun v => (⟨d.key, d.region, some v, none, none, none⟩ : Draft)) <|
    .cons rfl (phrases.map fun v => (⟨d.key, d.region, d.intents, some v, none, none⟩ : Draft)) <|
    .cons rfl (commands.map fun v => (⟨d.key, d.region, d.intents, d.phrases, some v, none⟩ : Draft)) <|
    .cons rfl ((reads_string s.logFilter).map fun v => { d with logFilter := some v }) (.nil _)

theorem reads_settings (s : Settings) (sorted : Dict.Sorted s.commands) :
    Reads Settings.read (writeLaidOut 0 s.toJson) s :=
  (Shape.reads_object (draft_takes s sorted)).map ofDraft

/-- What is written is read as it was. -/
theorem parse_render (s : Settings) (sorted : Dict.Sorted s.commands) : parse s.render = .ok s := by
  have found := (reads_settings s sorted).reads [] [] blanks_nil
  rw [List.nil_append, List.append_nil] at found
  rw [parse, readDocument, render, pretty, String.toList_ofList, found]
  rfl

/-! ### Loading again -/

theorem ofBytes_read {bytes : List UInt8} {text : String} {s : Settings}
    (readable : Text.readUtf8 bytes = .ok text) (parsed : parse text = .ok s) :
    ofBytes (some bytes) = s.normalize := by
  simp only [ofBytes, Option.bind_some, readable, Except.toOption, ofText, Option.map_some, parsed]

theorem ofBytes_render (s : Settings) (sorted : Dict.Sorted s.commands) :
    ofBytes (some s.render.toUTF8.toList) = s.normalize :=
  ofBytes_read (Text.readUtf8_toUTF8 s.render) (parse_render s sorted)

/-- Settings that are saved are loaded again as they are but for being normalized: the file can be read, is text,
and holds these very settings, so that none are made up for it. A device keeps nothing, and is no file. -/
theorem load_save (s : Settings) (sorted : Dict.Sorted s.commands) :
    parse s.render = .ok s ∧
    ∀ (files after : Files) (path : String), files.save path s.render = .ok after → ¬ after.AtDevice path →
      ∃ bytes, after.read path = some bytes ∧ Text.readUtf8 bytes = .ok s.render ∧
        ofBytes (after.read path) = s.normalize := by
  constructor
  · exact parse_render s sorted
  · intro files after path saved kept
    have read : after.read path = some s.render.toUTF8.toList := (Files.read_save saved).resolve_right kept
    refine ⟨s.render.toUTF8.toList, read, Text.readUtf8_toUTF8 s.render, ?_⟩
    rw [read]
    exact ofBytes_render s sorted

/-- Texts with all that JSON escapes, and what is not normal, in a directory that is made for them. -/
theorem odd_settings_kept :
    let s : Settings := ⟨some "a\"\\\n\x01\x7f", none, [⟨" Öffne \x7bx\x7d ", "𝄞"⟩, ⟨"", ""⟩], ["é", " É "],
      [("", "x"), ("Go. On.", " y ")], "\t"⟩
    let files := Files.empty ["home"]
    ∃ after, files.read "new/../old//settings.json" = none ∧
      files.save "new/../old//settings.json" s.render = .ok after ∧
      ofBytes (after.read "new/../old//settings.json") = s.normalize := by
  intro s files
  let after : Files := { files with nodes := (["home", "old", "settings.json"], .file s.render.toUTF8.toList) ::
    (["home", "old"], .directory) :: (["home", "new"], .directory) :: files.nodes }
  have saved : files.save "new/../old//settings.json" s.render = .ok after := rfl
  have kept : ¬ after.AtDevice "new/../old//settings.json" := by
    rintro ⟨place, full, leads, found⟩
    have settled : after.place "new/../old//settings.json" = .ok ["home", "old", "settings.json"] := rfl
    rw [settled] at leads
    cases leads
    cases found
  have sorted : Dict.Sorted s.commands := List.pairwise_pair.mpr (by decide)
  rcases (load_save s sorted).2 files after _ saved kept with ⟨bytes, read, -, loaded⟩
  exact ⟨after, by decide +kernel, saved, loaded⟩

/-- What is loaded is normal, whatever the file. -/
theorem ofBytes_normal (content : Option (List UInt8)) : ∃ s : Settings, ofBytes content = s.normalize := by
  simp only [ofBytes, ofText]
  split
  · next s _ => exact ⟨s, rfl⟩
  · exact ⟨default, rfl⟩

theorem normalize_fixed_iff (s : Settings) :
    s.normalize.normalize = s.normalize ↔ ∀ e ∈ s.normalize.commands, ¬ EndsInPeriod e.1 := by
  have commands := normalizeCommands_fixed_iff s.commands
  rw [normalize_again]
  constructor
  · intro same
    exact commands.mp (congrArg Settings.commands same)
  · intro whole
    have kept : normalizeCommands s.normalize.commands = s.normalize.commands := commands.mpr whole
    rw [kept]

/-- The longest utterance that ends in a period is heard by the first table, and unknown to the second. -/
theorem resolve_fixed_iff (s : Settings) :
    (∀ p utterance command,
        CommandTable.resolve ⟨s.normalize.commands⟩ p = .command utterance command →
        CommandTable.resolve ⟨s.normalize.normalize.commands⟩ p = .command utterance command) ↔
      ∀ e ∈ s.normalize.commands, ¬ EndsInPeriod e.1 := by
  constructor
  · intro kept e member ends
    obtain ⟨longest, here, -, lost⟩ := longest_lost member ends
    -- what the longest one is the normal form of is said to both tables
    obtain ⟨origin, -, ⟨utterance, -⟩, -⟩ := mem_normalizeCommands here
    have first : Dict.get? (normalizeUtterance origin.1) s.normalize.commands = some longest.2 := by
      rw [← utterance]
      exact Dict.get?_of_mem (normalizeCommands_sorted s.commands) here
    have second := kept ⟨origin.1, []⟩ (normalizeUtterance origin.1) longest.2
      (by simp [CommandTable.resolve, first])
    cases known : Dict.get? (normalizeUtterance origin.1) s.normalize.normalize.commands with
    | none => simp [CommandTable.resolve, known] at second
    | some command => exact lost _ (Dict.mem_of_get? known) utterance.symm
  · intro whole p utterance command found
    rwa [(normalize_fixed_iff s).mpr whole]

/-- Settings that are normalized again, as they are when they are saved and loaded, stay as they are but for
the commands; and these stay, each found by what found it before, exactly if no utterance among them ends in
a period. -/
theorem reload_keeps (s : Settings) (content : Option (List UInt8)) :
    (let first := s.normalize
      let second := first.normalize
      second = { first with commands := second.commands } ∧
      (second = first ↔ ∀ e ∈ first.commands, ¬ EndsInPeriod e.1)) ∧
    (let first := ofBytes content
      let second := ofBytes (some first.render.toUTF8.toList)
      second = { first with commands := second.commands } ∧
      (second = first ↔ ∀ e ∈ first.commands, ¬ EndsInPeriod e.1) ∧
      ((∀ p utterance command,
          CommandTable.resolve ⟨first.commands⟩ p = .command utterance command →
          CommandTable.resolve ⟨second.commands⟩ p = .command utterance command) ↔
        ∀ e ∈ first.commands, ¬ EndsInPeriod e.1)) := by
  obtain ⟨loaded, normal⟩ := ofBytes_normal content
  have again := ofBytes_render loaded.normalize (normalizeCommands_sorted loaded.commands)
  simp only [normal, again]
  exact ⟨⟨normalize_again s, normalize_fixed_iff s⟩, normalize_again loaded, normalize_fixed_iff loaded,
    resolve_fixed_iff loaded⟩

/-- A command for what is said with a break before the end: it is lost when the settings are loaded again. -/
theorem broken_utterance_lost :
    let s : Settings := ⟨none, none, [], [], [("a. .", "x")], "x"⟩
    let first := ofBytes (some s.render.toUTF8.toList)
    let second := ofBytes (some first.render.toUTF8.toList)
    first.commands = [("a.", "x")] ∧ second.commands = [("a", "x")] ∧ second ≠ first ∧
    CommandTable.resolve ⟨first.commands⟩ ⟨"a. .", []⟩ = .command "a." "x" ∧
    CommandTable.resolve ⟨second.commands⟩ ⟨"a. .", []⟩ = .unmatched "a." := by
  intro s first second
  have loaded : first = s.normalize := ofBytes_render s (by simp [s, Dict.Sorted])
  have again : second = s.normalize.normalize := by
    rw [← loaded]
    exact ofBytes_render first (loaded ▸ normalizeCommands_sorted s.commands)
  rw [again, loaded]
  decide +kernel

end Settings

end SpokenIntent
