import SpokenIntent.Proofs.Credentials.Checks
import SpokenIntent.Proofs.Text.Trim
import SpokenIntent.Settings.File

/-!
Where credentials come from: for each of the two texts a variable of the environment, and otherwise the settings file.
Neither source supplies a blank text, so none is ever found where the credentials are put together.
-/

namespace SpokenIntent

open Text

@[simp] theorem Text.isBlankText_trim (s : String) : isBlankText (trim s) = isBlankText s := by
  rw [← trim_isEmpty, trim_trim, trim_isEmpty]

namespace Credentials

variable {key region : Option String} {e : CredentialsError}

/-- Of texts that are not blank only their absence is reported, and that of the key first. -/
theorem ofOptions_filled (keyFilled : ∀ k ∈ key, isBlankText k = false)
    (regionFilled : ∀ r ∈ region, isBlankText r = false) :
    ofOptions key region = .error e ↔
      key = none ∧ e = .missingKey ∨ key ≠ none ∧ region = none ∧ e = .missingRegion := by
  rcases key with _ | k
  · simp [ofOptions, eq_comm]
  rcases region with _ | r
  · simp [ofOptions, eq_comm]
  · simp [ofOptions, ofTexts_eq_error, keyFilled k rfl, regionFilled r rfl]

end Credentials

namespace Settings

/-- What a settings file says before it is put in order: nothing if there is no file, or one that is not text or holds
no settings. -/
def written (content : Option (List UInt8)) : Option Settings :=
  content.bind fun bytes => (readUtf8 bytes).toOption.bind fun text => (parse text).toOption

theorem ofBytes_eq (content : Option (List UInt8)) : ofBytes content = ((written content).getD default).normalize := by
  rw [ofBytes, ofText, written]
  rcases content with _ | bytes
  · rfl
  simp only [Option.bind_some]
  rcases (readUtf8 bytes).toOption with _ | text
  · rfl
  simp only [Option.bind_some, Option.map_some]
  cases parse text <;> rfl

/-- Where one of the two texts comes from: a variable that is set and not blank, as it is; failing that, the file,
without the blanks around what it says, unless that is all blank. -/
inductive Supplies (env : String → Option String) (name : String) (inFile : Option String) : String → Prop where
  | environment {s : String} (set : env name = some s) (filled : isBlankText s = false) : Supplies env name inFile s
  | file {s : String} (unset : ∀ v, env name = some v → isBlankText v = true) (given : inFile = some s)
      (filled : isBlankText s = false) : Supplies env name inFile (trim s)

def SuppliesKey (content : Option (List UInt8)) (env : String → Option String) : String → Prop :=
  Supplies env Credentials.keyVariable ((written content).bind Settings.key)

def SuppliesRegion (content : Option (List UInt8)) (env : String → Option String) : String → Prop :=
  Supplies env Credentials.regionVariable ((written content).bind Settings.region)

section
variable {env : String → Option String} {name s : String} {inFile : Option String}

theorem Supplies.filled (supplied : Supplies env name inFile s) : isBlankText s = false := by
  cases supplied with
  | environment set filled => exact filled
  | file unset given filled => rwa [isBlankText_trim]

theorem normalizeOptional_eq_some :
    normalizeOptional inFile = some s ↔ ∃ v, inFile = some v ∧ isBlankText v = false ∧ trim v = s := by
  rw [normalizeOptional, Option.filter_eq_some_iff, Option.map_eq_some_iff]
  constructor
  · rintro ⟨⟨v, given, rfl⟩, filled⟩
    exact ⟨v, given, by simpa [trim_isEmpty] using filled, rfl⟩
  · rintro ⟨v, given, filled, rfl⟩
    exact ⟨⟨v, given, rfl⟩, by simpa [trim_isEmpty] using filled⟩

theorem filled?_eq_some : filled? env name = some s ↔ env name = some s ∧ isBlankText s = false := by
  rw [filled?, Option.filter_eq_some_iff, Bool.not_eq_true']

theorem filled?_eq_none : filled? env name = none ↔ ∀ v, env name = some v → isBlankText v = true := by
  rw [filled?, Option.filter_eq_none_iff]
  simp

/-- What is looked for is what is supplied. -/
theorem source_eq_some : (filled? env name).or (normalizeOptional inFile) = some s ↔ Supplies env name inFile s := by
  rw [Option.or_eq_some_iff, filled?_eq_some, filled?_eq_none, normalizeOptional_eq_some]
  constructor
  · rintro (⟨set, filled⟩ | ⟨unset, v, given, filled, rfl⟩)
    · exact .environment set filled
    · exact .file unset given filled
  · rintro (⟨set, filled⟩ | ⟨unset, given, filled⟩)
    · exact .inl ⟨set, filled⟩
    · exact .inr ⟨unset, _, given, filled, rfl⟩

theorem source_eq_none :
    (filled? env name).or (normalizeOptional inFile) = none ↔ ¬∃ s, Supplies env name inFile s := by
  rw [← Option.not_isSome_iff_eq_none, Option.isSome_iff_exists]
  simp only [source_eq_some]

end

theorem credentials_eq (content : Option (List UInt8)) (env : String → Option String) :
    (ofBytes content).credentials env = Credentials.ofOptions
      ((filled? env Credentials.keyVariable).or (normalizeOptional ((written content).bind Settings.key)))
      ((filled? env Credentials.regionVariable).or (normalizeOptional ((written content).bind Settings.region))) := by
  rw [credentials, ofBytes_eq]
  cases written content <;> rfl

theorem credentials_eq_ok {content : Option (List UInt8)} {env : String → Option String} {c : Credentials} :
    (ofBytes content).credentials env = .ok c ↔
      SuppliesKey content env c.key ∧ SuppliesRegion content env c.region := by
  rw [credentials_eq, Credentials.ofOptions_eq_ok, source_eq_some, source_eq_some, SuppliesKey, SuppliesRegion]

theorem credentials_eq_error {content : Option (List UInt8)} {env : String → Option String} {e : CredentialsError} :
    (ofBytes content).credentials env = .error e ↔
      (¬∃ k, SuppliesKey content env k) ∧ e = .missingKey ∨
        (∃ k, SuppliesKey content env k) ∧ (¬∃ r, SuppliesRegion content env r) ∧ e = .missingRegion := by
  rw [credentials_eq, Credentials.ofOptions_filled, source_eq_none, ne_eq, source_eq_none, not_not, source_eq_none]
  · rfl
  · intro k supplied
    exact (source_eq_some.mp supplied).filled
  · intro r supplied
    exact (source_eq_some.mp supplied).filled

/-- Credentials are found where both texts have a source, and are what the sources supply; otherwise the first that has
none is reported. That a text is blank, or is none, is never reported. -/
theorem credentials_sources (content : Option (List UInt8)) (env : String → Option String) :
    ((∃ c, (ofBytes content).credentials env = .ok c) ↔
      (∃ k, SuppliesKey content env k) ∧ ∃ r, SuppliesRegion content env r) ∧
    (∀ c, (ofBytes content).credentials env = .ok c ↔
      SuppliesKey content env c.key ∧ SuppliesRegion content env c.region) ∧
    (∀ e, (ofBytes content).credentials env = .error e ↔
      (¬∃ k, SuppliesKey content env k) ∧ e = .missingKey ∨
        (∃ k, SuppliesKey content env k) ∧ (¬∃ r, SuppliesRegion content env r) ∧ e = .missingRegion) ∧
    ∀ field, (ofBytes content).credentials env ≠ .error (.emptyValue field) ∧
      (ofBytes content).credentials env ≠ .error (.wrongType field) := by
  refine ⟨?_, fun c => credentials_eq_ok, fun e => credentials_eq_error, ?_⟩
  · constructor
    · rintro ⟨c, done⟩
      obtain ⟨key, region⟩ := credentials_eq_ok.mp done
      exact ⟨⟨_, key⟩, _, region⟩
    · rintro ⟨⟨k, key⟩, r, region⟩
      exact ⟨⟨k, r, key.filled, region.filled⟩, credentials_eq_ok.mpr ⟨key, region⟩⟩
  · intro field
    constructor
    · intro failed
      rcases credentials_eq_error.mp failed with ⟨-, apart⟩ | ⟨-, -, apart⟩ <;> cases apart
    · intro failed
      rcases credentials_eq_error.mp failed with ⟨-, apart⟩ | ⟨-, -, apart⟩ <;> cases apart

end Settings

end SpokenIntent
